set_option autoImplicit false

/-!
Blank characters at the ends of configured values: the ASCII controls from tab to carriage return,
the Unicode space separators, the two line separators and the byte order mark. U+0085, U+200B and
U+180E are not blank.
-/

namespace JoinTrust.Text

def isBlank (character : Char) : Bool :=
  let code := character.toNat
  (0x09 ≤ code && code ≤ 0x0D) || code == 0x20 || code == 0xA0 || code == 0x1680 ||
    (0x2000 ≤ code && code ≤ 0x200A) || code == 0x2028 || code == 0x2029 || code == 0x202F ||
    code == 0x205F || code == 0x3000 || code == 0xFEFF

def dropTrailing (test : Char → Bool) : List Char → List Char
  | [] => []
  | character :: rest =>
    match dropTrailing test rest with
    | [] => if test character then [] else [character]
    | kept => character :: kept

def trimChars (characters : List Char) : List Char :=
  dropTrailing isBlank (characters.dropWhile isBlank)

def trim (text : String) : String :=
  String.ofList (trimChars text.toList)

end JoinTrust.Text
