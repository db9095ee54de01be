import Looplet.Shell.Grammar
import Looplet.Shell.Expansion

/-!
# Showing commands

A shell can show every command before it is run. A shell that knows more than the standard quotes
the words that it shows, and shows commands inside others with a longer mark. Words that are not
expanded are shown as they were written.
-/

namespace Looplet.Shell

/-! ## Prompts -/

/-- A text read as the inside of a here-document. -/
def wordOfText (p : Process) (text : String) : Word :=
  let size := text.length + 2
  let input := Input.ofText text p.line p.extended false []
  match ((grammar size size).pieces .document).run input with
  | .ok (w, _) => w
  | .error _ => [.text true text]

/-- The mark before a command that is shown. -/
def traceMark (run : Runner) : Run String := do
  let p ← get
  let given := (p.value? "PS4").getD ""
  if given.toList.all (fun c => c ≠ '$' && c ≠ '\x60' && c ≠ '\\') then return given
  else
    modify fun q => { q with options := q.options.filter (· ≠ 'x') }
    let text ← textOfWord run .text (wordOfText p given)
    modify fun q => { q with
      options := p.options, status := p.status, substituted? := p.substituted? }
    return text

/-! ## Commands -/

/-- Shows a text as a command that is about to be run, where the open files were others. -/
def showCommand (run : Runner) (saved : List (Nat × Nat)) (text : String) : Run Unit := do
  let p ← get
  if 'x' ∈ p.options then
    set { p with descriptors := saved }
    let mark ← traceMark run
    let first := String.ofList (mark.toList.take 1)
    let more := if p.extended then String.join (List.replicate p.extras.level first) else ""
    sayError (more ++ mark ++ text ++ "\n")
    modify fun q => { q with descriptors := p.descriptors }

/-- Shows the words of a command before it is run. -/
def trace (run : Runner) (saved : List (Nat × Nat)) (words : List String) : Run Unit := do
  let p ← get
  let words := if p.extended then words.map (Quoting.traced p.isUtf8) else words
  showCommand run saved (" ".intercalate words)

/-- Shows a command that is not expanded before it is run. -/
def traceText (run : Runner) (text : String) : Run Unit := do
  let p ← get
  if p.extended then showCommand run p.descriptors text

end Looplet.Shell
