/-!
# StorageClient.Text.Masked

Texts without the numbers that differ from run to run: the number of a task, and the time that
passed. A star stands for each, so that what two runs say can be compared.

* A number is one or more decimal digits, and is masked between the text that announces it and the
  text that ends it, wherever the two stand.
* Masking looks at characters and not at meaning: a text that happens to speak of `task 7 ` is
  masked as well.
-/

namespace StorageClient.Text.Masked

/-- A text with a star for the number between `before` and `after`, if they stand at its start. -/
def maskStart (before after text : List Char) : List Char :=
  match before.isPrefixOf? text with
  | none => text
  | some rest =>
    let following := rest.dropWhile Char.isDigit
    if following.length < rest.length && after.isPrefixOf following then
      before ++ '*' :: following
    else text

/-- A text with a star for every number between `before` and `after`. -/
def maskNumbers (before after text : List Char) : List Char :=
  text.foldr (fun c masked => maskStart before after (c :: masked)) []

/-- A text with the numbers of tasks masked. -/
def tasks (text : String) : String :=
  String.ofList (maskNumbers ['t', 'a', 's', 'k', ' '] [' '] text.toList)

/-- A log line with the numbers of tasks and the elapsed times masked. -/
def line (text : String) : String :=
  tasks (String.ofList (maskNumbers "\"elapsed_us\":\"".toList ['"'] text.toList))

/-- A text that does not start with `before` is left as it is. -/
theorem maskStart_of_not_isPrefixOf {before after text : List Char}
    (h : before.isPrefixOf? text = none) : maskStart before after text = text := by
  simp [maskStart, h]

/-- Masking goes through a text character by character. -/
theorem maskNumbers_cons (before after : List Char) (c : Char) (text : List Char) :
    maskNumbers before after (c :: text) =
      maskStart before after (c :: maskNumbers before after text) := rfl

end StorageClient.Text.Masked
