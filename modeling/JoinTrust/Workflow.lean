set_option autoImplicit false

/-!
What a run prints. Values that come from outside are escaped inside a command, so that none of them
can begin a line of its own; a plain line prints settings as they are.
-/

namespace JoinTrust.Workflow

inductive OutputName where
  | caOverride
  | caChecksum
  | checksum
  | body
deriving DecidableEq, Repr

def OutputName.word : OutputName → String
  | .caOverride => "ca_override"
  | .caChecksum => "ca_checksum"
  | .checksum => "checksum"
  | .body => "body"

inductive Line where
  | mask (secret : String)
  | output (name : OutputName) (value : String)
  | info (text : String)
  | failure (text : String)
  | audit (text : String)
deriving DecidableEq, Repr

def escapeChar (character : Char) : List Char :=
  if character = '%' then ['%', '2', '5']
  else if character = '\r' then ['%', '0', 'D']
  else if character = '\n' then ['%', '0', 'A']
  else [character]

def escape (text : String) : String :=
  String.ofList (text.toList.flatMap escapeChar)

def Line.text : Line → String
  | .mask secret => "::add-mask::" ++ escape secret ++ "\n"
  | .output name value => "\n::set-output name=" ++ name.word ++ "::" ++ escape value ++ "\n"
  | .info text => text ++ "\n"
  | .failure text => "::error::" ++ escape text ++ "\n"
  | .audit text => text

end JoinTrust.Workflow
