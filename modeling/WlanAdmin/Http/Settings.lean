import WlanAdmin.Http.Message
import WlanAdmin.Url.Endpoint

/-!
# WlanAdmin.Http.Settings

How a controller is reached.
-/

namespace WlanAdmin

structure TransportSettings where
  scheme : Scheme := .https
  /-- Redirects that are followed before a request fails. -/
  maxRedirects : Nat := 10
  /-- The largest body that is read of any answer. -/
  bodyLimit : Nat := defaultBodyLimit
  /-- Whether certificates that cannot be verified are good enough. -/
  acceptInvalidCerts : Bool := false
  deriving DecidableEq, Repr

end WlanAdmin
