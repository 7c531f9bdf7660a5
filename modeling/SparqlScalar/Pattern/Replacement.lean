import SparqlScalar.Pattern.Match
import SparqlScalar.Text.Digits

/-!
# Replacements

The text that takes the place of a match refers to groups by a dollar sign and digits; a backslash
takes the meaning from a dollar sign and from another backslash. It is first written as a template,
where a doubled dollar sign stands for itself and a group has its digits in braces.
-/

namespace SparqlScalar.Pattern.Replacement

theorem length_afterLeading_le (text : List Char) :
    (Digits.afterLeading text).length ≤ text.length :=
  (List.dropWhile_suffix _).length_le

/-- A replacement as a template. -/
def template : List Char → List Char
  | [] => []
  | '\\' :: '$' :: rest => '$' :: '$' :: template rest
  | '\\' :: '\\' :: rest => '\\' :: template rest
  | '$' :: rest =>
    if Digits.leading rest = [] then '$' :: '$' :: template rest
    else '$' :: '\x7b' :: Digits.leading rest ++ '\x7d' :: template (Digits.afterLeading rest)
  | c :: rest => c :: template rest
termination_by text => text.length
decreasing_by
  all_goals simp only [List.length_cons]
  all_goals have := length_afterLeading_le rest
  all_goals omega

/-- Whether a text starts with the digits of a group and the brace that closes it. -/
def closesGroup (text : List Char) : Bool :=
  !(Digits.leading text).isEmpty && (Digits.afterLeading text).head? == some '\x7d'

/-- A template with the texts of its groups in place. -/
def fill (group : Nat → List Char) : List Char → List Char
  | [] => []
  | '$' :: '$' :: rest => '$' :: fill group rest
  | '$' :: '\x7b' :: rest =>
    if closesGroup rest then
      group (Digits.value (Digits.leading rest)) ++ fill group ((Digits.afterLeading rest).drop 1)
    else '$' :: fill group ('\x7b' :: rest)
  | c :: rest => c :: fill group rest
termination_by text => text.length
decreasing_by
  all_goals simp only [List.length_cons, List.length_drop]
  all_goals have := length_afterLeading_le rest
  all_goals omega

/-- What takes the place of a match, given the text that was searched. A group that did not take
part in the match gives nothing. -/
def apply (replacement text : List Char) (m : Match) : List Char :=
  fill (fun n => (m.group? text n).getD []) (template replacement)

end SparqlScalar.Pattern.Replacement
