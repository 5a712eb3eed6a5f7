import YamlListing.Text.Basic
import YamlListing.Unicode.Lowercase
import YamlListing.Unicode.WidthVariant

set_option autoImplicit false

/-! # Folding text for search

A normalizer maps text to a form in which spellings that a reader takes for the same are equal:
width variants, capitals and diacritics can be folded away, and further steps can follow. It works
on one character at a time (`Normalizer.normalize_append`), so every character of the folded text
comes from one character of the given text. -/

namespace YamlListing

/-- Which folds to apply, in the order of the fields. -/
structure Normalizer where
  /-- Fold fullwidth and halfwidth forms to ordinary ones. -/
  widthFold : Bool := false
  /-- Fold capitals to small letters, and letters that have no capital of their own to those they
      stand for. -/
  caseFold : Bool := true
  /-- Drop diacritics. -/
  diacriticFold : Bool := true
  /-- Further steps. -/
  transformers : List (Text → Text) := []

namespace Normalizer

/-- What a small letter folds to when lowercase alone tells it from its equals: sharp s, long s,
    the final sigma and the Latin ligatures. -/
def caseVariant (c : Char) : Text :=
  match c with
  | 'ß' => ['s', 's']
  | 'ſ' => ['s']
  | 'ς' => ['σ']
  | 'ﬀ' => ['f', 'f']
  | 'ﬁ' => ['f', 'i']
  | 'ﬂ' => ['f', 'l']
  | 'ﬃ' => ['f', 'f', 'i']
  | 'ﬄ' => ['f', 'f', 'l']
  | 'ﬅ' => ['s', 't']
  | 'ﬆ' => ['s', 't']
  | _ => [c]

/-- Folds the width of a character. -/
def foldWidth (c : Char) : Text := if Unicode.isWidthVariant c then Unicode.ordinaryWidth c else [c]

/-- Folds the case of a character. -/
def foldCase (c : Char) : Text := (Unicode.lowercase c).flatMap caseVariant

/-- The folded form of a character; it may be empty or longer than one. -/
def normalizeChar (n : Normalizer) (c : Char) : Text :=
  let t := if n.widthFold then foldWidth c else [c]
  let t := if n.caseFold then t.flatMap foldCase else t
  let t := if n.diacriticFold then t.flatMap Unicode.baseLetters else t
  n.transformers.foldl (fun t step => step t) t

/-- The folded form of a text. -/
def normalize (n : Normalizer) (t : Text) : Text := t.flatMap n.normalizeChar

theorem normalize_append (n : Normalizer) (s t : Text) :
    n.normalize (s ++ t) = n.normalize s ++ n.normalize t := List.flatMap_append

/-- The settings of a normalizer as a value shown for inspection. -/
def inspect (n : Normalizer) : String :=
  "NormalizerOptions \x7b case_fold: " ++ toString n.caseFold ++ ", diacritic_fold: "
    ++ toString n.diacriticFold ++ ", width_fold: " ++ toString n.widthFold ++ ", transformers: "
    ++ toString n.transformers.length ++ " \x7d"

end Normalizer

end YamlListing
