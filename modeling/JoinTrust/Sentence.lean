import JoinTrust.Excerpt
import JoinTrust.Json

set_option autoImplicit false

/-!
Sentences: words, and an excerpt of a body at the end if the sentence is about one. In a JSON string
half a character is written as an escape, so that nothing of the excerpt is lost there.
-/

namespace JoinTrust

structure Sentence where
  words : String
  excerpt : Excerpt := {}
deriving DecidableEq, Repr

namespace Sentence

def text (sentence : Sentence) : String :=
  sentence.words ++ sentence.excerpt.text

def halfChars (half : Nat) : List Char :=
  '\\' :: 'u' :: Text.Hex.ofNat half

def jsonChars (sentence : Sentence) : List Char :=
  let excerpt := sentence.excerpt
  let before := sentence.words.toList.flatMap Json.quoteChar ++ excerpt.shown.flatMap Json.quoteChar
  let half := (excerpt.half.map halfChars).getD []
  '"' :: before ++ half ++ excerpt.dots ++ ['"']

end Sentence

end JoinTrust
