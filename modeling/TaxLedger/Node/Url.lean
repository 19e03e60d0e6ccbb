import TaxLedger.Text.Blank
import TaxLedger.Text.Integer

/-!
# Node addresses

The address of a node as it is configured: a scheme is added where it is missing, slashes at the end
are dropped, and a port is added where there is none.
-/

namespace TaxLedger.NodeUrl

def splitFirst? (mark : List Char) : List Char → Option (List Char × List Char)
  | [] => if mark.isEmpty then some ([], []) else none
  | c :: cs =>
    if mark.isPrefixOf (c :: cs) then some ([], (c :: cs).drop mark.length)
    else (splitFirst? mark cs).map fun (front, rest) => (c :: front, rest)

/-- Whether the host ends in a colon and a port of digits. -/
def hasPort (host : List Char) : Bool :=
  let port := (host.reverse.takeWhile (· != ':')).reverse
  host.contains ':' && !port.isEmpty && port.all Text.isDigit

/-- The address with a port behind its host: the one that it has, or the one of its scheme. -/
def withPort (cs : List Char) : String :=
  let (scheme, rest) := (splitFirst? "://".toList cs).getD ("http".toList, cs)
  let host := rest.takeWhile (· != '/')
  let path := rest.dropWhile (· != '/')
  if hasPort host then String.ofList cs
  else
    let port := if scheme = "https".toList then ":443" else ":80"
    String.ofList scheme ++ "://" ++ String.ofList host ++ port ++ String.ofList path

/-- The address with scheme and port, and without slashes at its end. -/
def normalize (address : String) : String :=
  let cs := Text.trimChars address.toList
  let cs :=
    if "http://".toList.isPrefixOf cs || "https://".toList.isPrefixOf cs then cs
    else "http://".toList ++ cs
  withPort (Text.dropEndWhile (· == '/') cs)

end TaxLedger.NodeUrl
