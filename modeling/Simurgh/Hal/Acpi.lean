import Simurgh.Lib.CheckedRead
import Simurgh.Lib.ListLoop

/-!
# The walks over the ACPI tables

The root pointer leads to a table of table addresses, and the HAL looks for the tables it needs
in it: one tells that there is an IOMMU, one where PCI configuration space is, and one where the
interrupt distributor is.  Every table says in its header how long it is.  A sum or a difference
that leaves its word is a fault, and so is a read behind the end of a table.
-/

namespace Simurgh

/-! ## Tables -/

def signatureOf (text : List Char) : List UInt8 := text.map fun c => UInt8.ofNat c.toNat

def dmarSignature : List UInt8 := signatureOf ['D', 'M', 'A', 'R']
def mcfgSignature : List UInt8 := signatureOf ['M', 'C', 'F', 'G']
def madtSignature : List UInt8 := signatureOf ['A', 'P', 'I', 'C']
def iortSignature : List UInt8 := signatureOf ['I', 'O', 'R', 'T']

def sizeOfSdtHeader : Nat := 36

/-- Where a table of so many bytes ends, at the latest with the address space. -/
def acpiEnd (addr length : Nat) : Nat := min (addr + length) (2 ^ 64)

/-- The length that the root pointer declares. -/
def rsdpLength (mem : ByteMemory) (rsdp : Nat) : Nat := mem.readNat (rsdp + 20) 4

/-- The length that a table declares. -/
def sdtLength (mem : ByteMemory) (table : Nat) : Nat := mem.readNat (table + 4) 4

def sdtSignature (mem : ByteMemory) (table : Nat) : List UInt8 := mem.read table 4

structure AcpiSdtHeader where
  signature : List UInt8
  length : Nat
  deriving DecidableEq, Repr

/-- Read the header at an address, all of it. -/
def AcpiSdtHeader.read (mem : ByteMemory) (table : Nat) : Checked AcpiSdtHeader := do
  let _ ← Checked.readBytes mem table (acpiEnd table (sdtLength mem table)) table sizeOfSdtHeader
  return { signature := sdtSignature mem table, length := sdtLength mem table }

/-- The number in a field of a table of so many bytes. -/
def readField (mem : ByteMemory) (table length addr width : Nat) : Checked Nat := do
  let raw ← Checked.readBytes mem table (acpiEnd table length) addr width
  return Bytes.decode raw

/-! ## The table of tables -/

structure Xsdt where
  addr : Nat
  entryCount : Nat
  entriesPtr : Nat
  deriving DecidableEq, Repr

/-- From the root pointer to the table of tables, if there is one. -/
def openXsdt (mem : ByteMemory) (rsdpPhys : Nat) : Checked (Option Xsdt) :=
  if rsdpPhys = 0 then return none
  else do
    let pointer ← Checked.add 64 true rsdpPhys 24
    let addr ← readField mem rsdpPhys (rsdpLength mem rsdpPhys) pointer 8
    if addr = 0 then return none
    else do
      let header ← AcpiSdtHeader.read mem addr
      let size ← Checked.sub 64 true header.length sizeOfSdtHeader
      let entriesPtr ← Checked.add 64 true addr sizeOfSdtHeader
      return some { addr, entryCount := size / 8, entriesPtr }

/-- The address in an entry, and the header it leads to. -/
def Xsdt.readTable (mem : ByteMemory) (xsdt : Xsdt) (i : Nat) : Checked (Nat × AcpiSdtHeader) := do
  let entry ← Checked.add 64 true xsdt.entriesPtr (8 * i)
  let tableAddr ← readField mem xsdt.addr (sdtLength mem xsdt.addr) entry 8
  let header ← AcpiSdtHeader.read mem tableAddr
  return (tableAddr, header)

/-- What all the walks have in common: if there is a table of tables, visit the tables in it one
after another. -/
def forTables {σ ρ : Type} (mem : ByteMemory) (rsdpPhys : Nat)
    (visit : Nat → AcpiSdtHeader → σ → Checked (Iteration σ ρ)) (state : σ) :
    Checked (Iteration σ ρ) := do
  match ← openXsdt mem rsdpPhys with
  | none => return .again state
  | some xsdt =>
      ListLoop.run (fun i state => do
        let (tableAddr, header) ← xsdt.readTable mem i
        visit tableAddr header state) (List.range xsdt.entryCount) state

/-! ## The x86_64 walks -/

def visitForDmar (_tableAddr : Nat) (header : AcpiSdtHeader) (_ : Unit) :
    Checked (Iteration Unit Bool) :=
  if header.signature = dmarSignature then return .done true else return .again ()

def acpiDmarPresent (mem : ByteMemory) (rsdpPhys : Nat) : Checked Bool := do
  match ← forTables mem rsdpPhys visitForDmar () with
  | .done present => return present
  | .again _ => return false

def sizeOfMcfgAllocation : Nat := 16

/-- The base address in the first allocation of the table, if it has one. -/
def firstAllocation (mem : ByteMemory) (tableAddr : Nat) (header : AcpiSdtHeader) :
    Checked (Option Nat) := do
  let body ← Checked.add 64 true tableAddr sizeOfSdtHeader
  let firstEntryAddr ← Checked.add 64 true body 8
  let tableEnd ← Checked.add 64 true tableAddr header.length
  let entryEnd ← Checked.add 64 true firstEntryAddr sizeOfMcfgAllocation
  if tableEnd < entryEnd then return none
  else do
    let _ ← Checked.readBytes mem tableAddr (acpiEnd tableAddr header.length) firstEntryAddr
      sizeOfMcfgAllocation
    return some (mem.readNat firstEntryAddr 8)

def visitForMcfg (mem : ByteMemory) (tableAddr : Nat) (header : AcpiSdtHeader) (_ : Unit) :
    Checked (Iteration Unit (Option Nat)) :=
  if header.signature ≠ mcfgSignature then return .again ()
  else do
    let base ← firstAllocation mem tableAddr header
    return .done base

def acpiMcfgEcamBase (mem : ByteMemory) (rsdpPhys : Nat) : Checked (Option Nat) := do
  match ← forTables mem rsdpPhys (visitForMcfg mem) () with
  | .done base => return base
  | .again _ => return none

/-! ## The arm64 walk -/

def madtFixedFieldsSize : Nat := 8
def madtGicDistributorType : Nat := 0x0c
def sizeOfMadtGicDistributorEntry : Nat := 24

/-- The loop of `find_gicd_in_madt`, from an offset on. -/
def findGicdFrom (mem : ByteMemory) (madtAddr length offset : Nat) : Checked (Option Nat) :=
  if _ : offset < length then do
    let entryAddr ← Checked.add 64 true madtAddr offset
    let entryType ← readField mem madtAddr length entryAddr 1
    let lengthAddr ← Checked.add 64 true entryAddr 1
    let entryLength ← readField mem madtAddr length lengthAddr 1
    if entryType = madtGicDistributorType then do
      let _ ← Checked.readBytes mem madtAddr (acpiEnd madtAddr length) entryAddr
        sizeOfMadtGicDistributorEntry
      return some (mem.readNat (entryAddr + 8) 8)
    else if _ : entryLength = 0 then return none
    else
      match _moved : Checked.add 32 true offset entryLength with
      | .ok next => findGicdFrom mem madtAddr length next
      | .error fault => .error fault
  else return none
termination_by length - offset
decreasing_by
  obtain ⟨_, sum⟩ := Checked.add_eq_ok.1 _moved
  omega

def findGicdInMadt (mem : ByteMemory) (madtAddr length : Nat) : Checked (Option Nat) :=
  findGicdFrom mem madtAddr length (sizeOfSdtHeader + madtFixedFieldsSize)

structure AcpiDiscoveryResult where
  gicdBase : Option Nat
  smmuPresent : Bool
  deriving DecidableEq, Repr

def AcpiDiscoveryResult.default : AcpiDiscoveryResult where
  gicdBase := none
  smmuPresent := false

def visitForDiscovery (mem : ByteMemory) (tableAddr : Nat) (header : AcpiSdtHeader)
    (result : AcpiDiscoveryResult) : Checked (Iteration AcpiDiscoveryResult Empty) :=
  if header.signature = madtSignature then do
    let gicdBase ← findGicdInMadt mem tableAddr header.length
    return .again { result with gicdBase }
  else if header.signature = iortSignature then
    return .again { result with smmuPresent := true }
  else return .again result

/-- The loop has no early return. -/
def acpiDiscover (mem : ByteMemory) (rsdpPhys : Nat) : Checked AcpiDiscoveryResult := do
  match ← forTables mem rsdpPhys (visitForDiscovery mem) .default with
  | .again result => return result

end Simurgh
