import MarkupLint.Proofs.Clean.Environments
import MarkupLint.Proofs.Pattern.Quoted
import MarkupLint.Proofs.Pattern.Words

/-!
# The patterns of a cleaner

The patterns of environments and of commands to remove are put together from the names in the settings of a cleaner,
which may be any texts.  They can always be read: `compile_environmentPattern`, `compile_macroPattern`.
-/

namespace MarkupLint

namespace Latex

open Pattern

open Pattern.Node (blanks)

/-- What is read of an opening brace with blanks around it, last first. -/
def braceElements : List Element :=
  [⟨[.node blanks], .repeated⟩, ⟨[.char '{'.toNat], .plain⟩, ⟨[.node blanks], .repeated⟩]

/-- An argument between two signs. -/
def argument (first last : Char) : Node :=
  .seq (.char (.only first)) (.seq (.chars .allButLineFeed 0 none .lazy) (.char (.only last)))

/-- What is read of the arguments of a command, last first. -/
def argumentElements : List Element :=
  [⟨[.node (.loop 0 (some 1) .greedy (argument '{' '}'))], .repeated⟩,
    ⟨[.node (.loop 0 none .greedy (argument '[' ']'))], .repeated⟩]

lemma reads_brace (elements : List Element) (i : Nat) (tail : Text) :
    Reads (.ofElements elements) ⟨i, "\\s*\\\x7b\\s*".toList ++ ("(?:".toList ++ tail)⟩
      (.ofElements (braceElements ++ elements)) ⟨i + 8, "(?:".toList ++ tail⟩ :=
  ⟨5, by simp +arith, fun _ => rfl⟩

lemma reads_arguments (elements : List Element) (i : Nat) :
    Reads (.ofElements elements) ⟨i, "(?:\\[.*?\\])*(?:\\\x7b.*?\\\x7d)?".toList⟩
      (.ofElements (argumentElements ++ elements)) ⟨i + 24, []⟩ :=
  ⟨14, by simp, fun _ => rfl⟩

/-- A source that is read to its end is that of the pattern that is taken from it. -/
lemma compile_trusted {source : Text} {elements : List Element} {stop : Nat} (hsource : GoesOn source)
    (h : Reads (.ofElements []) ⟨0, source⟩ (.ofElements elements) ⟨stop, []⟩)
    (hlooks : elements.all Element.looksAhead = true) :
    compile (trusted source noFlags).source noFlags = .ok (trusted source noFlags) := by
  have hcompile := compile_of_reads hsource h hlooks
  rw [trusted_of_compile hcompile]
  exact hcompile

/-- **The pattern of environments can be read**, whatever their names are. -/
theorem compile_environmentPattern {command : String} (hcommand : escape command.toList = command.toList)
    (names : List Text) :
    compile (environmentPattern command names).source noFlags = .ok (environmentPattern command names) := by
  have hbrace : 1 < "\\s*\\\x7b\\s*".toList.length := by decide
  have hnone : GoesOn [] := by decide
  have hsource : "\\\\".toList ++ command.toList ++ "\\s*\\\x7b\\s*(?:".toList ++ anyOf names ++ [')'] =
      escape ('\\' :: command.toList) ++
        ("\\s*\\\x7b\\s*".toList ++ ("(?:".toList ++ (anyOf names ++ [')']))) := by
    have hescape : escape ('\\' :: command.toList) = "\\\\".toList ++ escape command.toList := List.flatMap_cons
    rw [hescape, hcommand]
    simp
  have hword := reads_quoted [] 0 ('\\' :: command.toList)
    (goesOn_append hbrace ("(?:".toList ++ (anyOf names ++ [')'])))
  have hfront := hword.trans (reads_brace _ _ _)
  obtain ⟨stop, hnames⟩ := reads_names (braceElements ++ (Element.ofText ('\\' :: command.toList) ++ []))
    (0 + (escape ('\\' :: command.toList)).length + 8) names hnone
  have hlooks : (Element.anyOf names :: (braceElements ++ (Element.ofText ('\\' :: command.toList) ++ []))).all
      Element.looksAhead = true := by
    rw [List.all_cons, looksAhead_anyOf, List.all_append, List.all_append, looksAhead_ofText]
    decide
  unfold environmentPattern
  rw [hsource]
  exact compile_trusted (goesOn_escape _ (goesOn_append hbrace _)) (hfront.trans hnames) hlooks

/-- **The pattern of commands can be read**, whatever their names are. -/
theorem compile_macroPattern (names : List Text) :
    compile (macroPattern names).source noFlags = .ok (macroPattern names) := by
  have hgroup : 1 < "(?:".toList.length := by decide
  have harguments : GoesOn "(?:\\[.*?\\])*(?:\\\x7b.*?\\\x7d)?".toList := by decide
  have hsource : "\\\\(?:".toList ++ anyOf names ++ ")(?:\\[.*?\\])*(?:\\\x7b.*?\\\x7d)?".toList =
      escape ['\\'] ++ ("(?:".toList ++ (anyOf names ++ ')' :: "(?:\\[.*?\\])*(?:\\\x7b.*?\\\x7d)?".toList)) := by
    have hescape : escape ['\\'] = "\\\\".toList := by decide
    rw [hescape]
    simp
  have hbackslash := reads_quoted [] 0 ['\\'] (goesOn_append hgroup
    (anyOf names ++ ')' :: "(?:\\[.*?\\])*(?:\\\x7b.*?\\\x7d)?".toList))
  obtain ⟨stop, hnames⟩ := reads_names (Element.ofText ['\\'] ++ []) 2 names harguments
  have hlooks : (argumentElements ++ Element.anyOf names :: (Element.ofText ['\\'] ++ [])).all
      Element.looksAhead = true := by
    rw [List.all_append, List.all_cons, looksAhead_anyOf, List.all_append, looksAhead_ofText]
    decide
  have hreads := (hbackslash.trans hnames).trans (reads_arguments _ _)
  unfold macroPattern
  rw [hsource]
  exact compile_trusted (goesOn_escape _ (goesOn_append hgroup _)) hreads hlooks

end Latex

end MarkupLint
