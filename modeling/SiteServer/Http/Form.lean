import SiteServer.Text.Cuts

/-!
# Credential forms

Both forms of the site post `user=<name>&passwd=<password>`.  The name begins after
the first `user=` and ends at the next `&`; the password is everything after the
`passwd=` that has to follow, whatever it holds.

`credentials?` reads the characters of a form.  `credentialOctets?` reads its octets: it finds the
same marks by counting octets, and cuts there.
-/

namespace SiteServer
namespace Http
namespace Form

/-- What stands before the name. -/
def userMark : List Char := "user=".toList

/-- What stands before the password. -/
def passwordMark : List Char := "passwd=".toList

/-- The text without the word it begins with. -/
def dropWord? (word text : List Char) : Option (List Char) :=
  if word.isPrefixOf text then some (text.drop word.length) else none

/-- The name and the password in a form. -/
def credentials? (body : List Char) : Option (List Char × List Char) :=
  match Text.afterFirst? userMark body with
  | none => none
  | some rest =>
    match Text.splitOnce? (· = '&') rest with
    | none => none
    | some (user, rest) =>
      match dropWord? passwordMark rest with
      | none => none
      | some password => if user.isEmpty then none else some (user, password)

/-! ## In octets -/

/-- What follows the first occurrence of a word, if there is one. -/
def octetsAfter? (word octets : Bytes) : Except Utf8.CutFault (Option Bytes) :=
  match Text.place? word octets with
  | none => .ok none
  | some place => do
    let (_, rest) ← Utf8.cut octets (place + word.length)
    return some rest

/-- What comes before and after the first occurrence of a word, if there is one. -/
def octetsAround? (word octets : Bytes) : Except Utf8.CutFault (Option (Bytes × Bytes)) :=
  match Text.place? word octets with
  | none => .ok none
  | some place => do
    let (front, _) ← Utf8.cut octets place
    let (_, rest) ← Utf8.cut octets (place + word.length)
    return some (front, rest)

/-- The octets without the word they begin with. -/
def dropOctets? (word octets : Bytes) : Except Utf8.CutFault (Option Bytes) :=
  if word.isPrefixOf octets then do
    let (_, rest) ← Utf8.cut octets word.length
    return some rest
  else .ok none

/-- The name and the password in the octets of a form. -/
def credentialOctets? (body : Bytes) : Except Utf8.CutFault (Option (Bytes × Bytes)) := do
  let some rest ← octetsAfter? (Utf8.encodeChars userMark) body | return none
  let some (user, rest) ← octetsAround? (Utf8.encodeChars ['&']) rest | return none
  let some password ← dropOctets? (Utf8.encodeChars passwordMark) rest | return none
  if user.isEmpty then return none
  return some (user, password)

end Form
end Http
end SiteServer
