/-!
Why a text is no address.
-/
namespace ChatClient.Url

inductive Fault
  | emptyHost
  | badDomain
  | badPort
  | badIpv4
  | badIpv6
  | badHostCharacter
  | noBase
  | baseHasNoPath
deriving DecidableEq

def Fault.message : Fault → String
  | .emptyHost => "empty host"
  | .badDomain => "invalid international domain name"
  | .badPort => "invalid port number"
  | .badIpv4 => "invalid IPv4 address"
  | .badIpv6 => "invalid IPv6 address"
  | .badHostCharacter => "invalid domain character"
  | .noBase => "relative URL without a base"
  | .baseHasNoPath => "relative URL with a cannot-be-a-base base"

end ChatClient.Url
