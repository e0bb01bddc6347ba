import WlanAdmin.Client.Error
import WlanAdmin.Http.Settings
import WlanAdmin.Session.Context

/-!
# WlanAdmin.Client.Settings

What a client is built from.
-/

namespace WlanAdmin

structure ClientSettings where
  /-- The authority of the controller. -/
  host : String := ""
  credentials : Credentials := ⟨"", ""⟩
  transport : TransportSettings := {}
  deriving DecidableEq, Repr

/-- The session that a client starts with. A host that no URL can be made of is refused. -/
def ClientSettings.context (settings : ClientSettings) : Except ClientError Context :=
  match endpoint settings.transport.scheme settings.host "/" with
  | .ok _ => .ok { host := settings.host, credentials := settings.credentials }
  | .error text => .error (.transport (.invalidUrl text))

end WlanAdmin
