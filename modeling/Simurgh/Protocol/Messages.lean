import Simurgh.Protocol.Security

/-!
# The messages of the system

All twelve codecs send what they document and read it back.  None of them is strict: the
words of 32-bit fields are cut off without a check.
-/

namespace Simurgh

/-- Every message type comes back from the wire, and short messages are not read. -/
theorem messages_round_trip :
    FsRequest.codec.RoundTrips FsRequest.layout ∧
    FsResponse.codec.RoundTrips FsResponse.layout ∧
    DriverRequest.codec.RoundTrips DriverRequest.layout ∧
    DriverResponse.codec.RoundTrips DriverResponse.layout ∧
    DisplayRequest.codec.RoundTrips DisplayRequest.layout ∧
    DisplayResponse.codec.RoundTrips DisplayResponse.layout ∧
    MmRequest.codec.RoundTrips MmRequest.layout ∧
    MmResponse.codec.RoundTrips MmResponse.layout ∧
    NetBypassRequest.codec.RoundTrips NetBypassRequest.layout ∧
    NetBypassResponse.codec.RoundTrips NetBypassResponse.layout ∧
    SecurityRequest.codec.RoundTrips SecurityRequest.layout ∧
    SecurityResponse.codec.RoundTrips SecurityResponse.layout :=
  ⟨FsRequest.follows.roundTrips, FsResponse.follows.roundTrips,
    DriverRequest.follows.roundTrips, DriverResponse.follows.roundTrips,
    DisplayRequest.follows.roundTrips, DisplayResponse.follows.roundTrips,
    MmRequest.follows.roundTrips, MmResponse.follows.roundTrips,
    NetBypassRequest.follows.roundTrips, NetBypassResponse.follows.roundTrips,
    SecurityRequest.follows.roundTrips, SecurityResponse.follows.roundTrips⟩

/-! ## Strictness -/

end Simurgh
