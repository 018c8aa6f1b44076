import RecordRules.Format.Address
import RecordRules.Format.Duration
import RecordRules.Format.Mail
import RecordRules.Format.Url

/-!
# Text formats

The formats that checks know by name.
-/

namespace RecordRules

/-- A format of texts. -/
inductive TextFormat where
  | ip | ipv4 | ipv6 | cidr | mac | email | url | duration
deriving DecidableEq, Repr

namespace TextFormat

/-- All formats. -/
def all : List TextFormat :=
  [ip, ipv4, ipv6, cidr, mac, email, url, duration]

/-- The name of the format in rules. -/
def name : TextFormat → String
  | ip => "ip"
  | ipv4 => "ipv4"
  | ipv6 => "ipv6"
  | cidr => "cidr"
  | mac => "mac"
  | email => "email"
  | url => "url"
  | duration => "duration"

/-- What messages call a text of the format. -/
def noun : TextFormat → String
  | ip => "IP address"
  | ipv4 => "IPv4 address"
  | ipv6 => "IPv6 address"
  | cidr => "CIDR block"
  | mac => "MAC address"
  | email => "email address"
  | url => "URL"
  | duration => "duration"

/-- The text has the format. -/
def accepts (format : TextFormat) (text : String) : Bool :=
  let cs := text.toList
  match format with
  | ip => isIpAddress cs
  | ipv4 => isIpv4Address cs
  | ipv6 => isIpv6Address cs
  | cidr => isAddressBlock cs
  | mac => isHardwareAddress cs
  | email => isMailAddress cs
  | url => isUrlWithHost cs
  | duration => isDuration cs

end TextFormat

end RecordRules
