import QuickFix.Uri.Basic

/-!
# URIs taken apart for the log

A URI in a log line shows its parts by name.
-/

set_option autoImplicit false

namespace QuickFix.Uri

/-- A part between quotes. -/
def quotedPart (s : String) : String :=
  String.ofList (Text.quoted s.toList)

/-- A part that may be absent. -/
def optionalPart {α : Type} (describe : α → String) : Option α → String
  | some a => "Some(" ++ describe a ++ ")"
  | none => "None"

/-- What a host is, with its data. -/
def HostKind.describe (text : String) : HostKind → String
  | .name => "RegName(" ++ quotedPart text ++ ")"
  | .dotted octets => "Ipv4(" ++ String.ofList (writeDotted octets) ++ ")"
  | .groups gs => "Ipv6 \x7b addr: " ++ String.ofList (writeEightGroups gs) ++ " \x7d"

/-- A host with its parts. -/
def Host.describe (h : Host) : String :=
  "Host \x7b text: " ++ quotedPart h.text ++ ", data: " ++ h.kind.describe h.text ++ " \x7d"

/-- An authority with its parts. -/
def Authority.describe (a : Authority) : String :=
  "Authority \x7b userinfo: " ++ optionalPart quotedPart a.userinfo ++ ", host: " ++
    a.host.describe ++ ", port: " ++ optionalPart quotedPart a.port ++ " \x7d"

/-- A reference with its parts. -/
def Reference.describe (r : Reference) : String :=
  "Uri(Uri \x7b scheme: " ++ optionalPart quotedPart r.scheme ++ ", authority: " ++
    optionalPart Authority.describe r.authority ++ ", path: " ++ quotedPart r.path ++
    ", query: " ++ optionalPart quotedPart r.query ++ ", fragment: " ++
    optionalPart quotedPart r.fragment ++ " \x7d)"

/-- A URI with its parts. -/
def describe (u : Uri) : String :=
  (u.reference?.map Reference.describe).getD ""

end QuickFix.Uri
