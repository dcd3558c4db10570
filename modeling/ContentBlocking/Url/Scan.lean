import ContentBlocking.Url

/-!
# Scanning the bytes of a URL

The parts of a URL, found without taking its text apart: loops over the bytes yield the offsets at
which the scheme and the host end, and the text between two offsets is cut out afterwards, which
fails if one of them falls inside a character.  All characters that end a part are in ASCII, so a
byte is tested as the character of its code.
-/

namespace ContentBlocking.Url.Scan

variable (bytes : List UInt8)

/-- Whether the byte at an offset is the code of an ASCII character. -/
def isAt (c : Char) (i : Nat) : Bool :=
  bytes[i]?.any (Char.ofUInt8 · == c)

/-- The first offset from `start` on whose byte passes a test. -/
def next? (p : Char → Bool) (start : Nat) : Option Nat :=
  ((bytes.drop start).findIdx? fun b => p (Char.ofUInt8 b)).map (start + ·)

/-- The offset behind the `://` of the scheme. -/
def schemeEnd? : Option Nat := do
  let colon ← next? bytes (· == ':') 0
  if (colon ≠ 0 ∧ (bytes.take colon).all fun b => isSchemeChar (Char.ofUInt8 b)) ∧
      isAt bytes '/' (colon + 1) ∧ isAt bytes '/' (colon + 2) then
    return colon + 3
  else
    none

/-- The offset at which the host starts: behind the first `@` of the authority, if it has one. -/
def hostStart (scheme : Nat) : Nat :=
  match next? bytes (fun c => endsAuthority c || c == '@') scheme with
  | some i => if isAt bytes '@' i then i + 1 else scheme
  | none => scheme

/-- The offset from which the end of the host is looked for: behind the brackets of an address. -/
def bracketEnd? (start : Nat) : Option Nat :=
  if isAt bytes '[' start then (next? bytes (· == ']') start).map (· + 1) else some start

/-- The offsets at which the host starts and ends. -/
def hostSpan? : Option (Nat × Nat) := do
  let scheme ← schemeEnd? bytes
  let start := hostStart bytes scheme
  let behind ← bracketEnd? bytes start
  return (start, (next? bytes endsHost behind).getD bytes.length)

/-- The URL with its scheme replaced by `http`. -/
def withHttpScheme (url : String) : Except Text.BadCut (Option String) :=
  (schemeEnd? (Text.bytes url)).mapM fun n => do
    return "http://" ++ (← Text.cut url n url.utf8ByteSize)

/-- The host of a URL, as written. -/
def host (url : String) : Except Text.BadCut (Option String) :=
  (hostSpan? (Text.bytes url)).mapM fun span => Text.cut url span.1 span.2

end ContentBlocking.Url.Scan
