import AskSql.Text.Utf8

/-!
# Percent-encoding

A character that may not stand in a part of a URL is written as its bytes, each of them as `%`
and two hexadecimal digits. What may not stand differs from part to part.
-/

namespace AskSql.Url

open Text

/-- A byte as `%` and two hexadecimal digits. -/
def percent (byte : Nat) : Text :=
  ['%', (Nat.digitChar (byte / 16)).toUpper, (Nat.digitChar (byte % 16)).toUpper]

/-- A text with every character percent-encoded that is a control character, no ASCII character,
or one of `reserved`. -/
def encode (reserved s : Text) : Text :=
  s.flatMap fun c =>
    if 0x20 ≤ c.toNat ∧ c.toNat < 0x7F ∧ !reserved.contains c then [c]
    else (utf8 c).flatMap percent

/-- What a path may not hold as it is. -/
def pathReserved : Text := [' ', '"', '#', '<', '>', '?', '\x60', '\x7b', '\x7d']

/-- What names and passwords may not hold as they are. -/
def userReserved : Text :=
  pathReserved ++ ['/', ':', ';', '=', '@', '[', '\\', ']', '^', '|']

/-- What a query may not hold as it is. A query of one of the common schemes holds no apostrophe
either. -/
def queryReserved (common : Bool) : Text :=
  [' ', '"', '#', '<', '>'] ++ if common then ['\x27'] else []

/-- What a fragment may not hold as it is. -/
def fragmentReserved : Text := [' ', '"', '<', '>', '\x60']

end AskSql.Url
