import Promptbook.Substitution.Source

/-! A source with answers prepared in advance.

Questions take the prepared answers in order, and a default answer stands in when they
are used up; without one the question is called off. Every prompt that was shown is
remembered. -/
namespace Promptbook.Substitution

/-- Answers prepared in advance, and what has been asked so far. -/
structure Script where
  /-- Answers for the next questions; nothing calls a question off. -/
  answers : List (Option String) := []
  /-- The answer when no prepared one is left. -/
  defaultAnswer : Option String := none
  choice : Option Origin := none
  registers : Registers := []
  filetype : String := ""
  /-- The prompts shown, the earliest first. -/
  prompts : List String := []
  /-- How often an origin was asked for. -/
  choices : Nat := 0
  deriving DecidableEq

namespace Script

/-- Answers from a script, which moves on with each question. -/
def source : Source Script where
  input prompt script :=
    let asked := { script with prompts := script.prompts ++ [prompt] }
    match script.answers with
    | answer :: rest => (.ok answer, { asked with answers := rest })
    | [] => (.ok script.defaultAnswer, asked)
  choose prompt _ script :=
    (.ok script.choice,
      { script with prompts := script.prompts ++ [prompt], choices := script.choices + 1 })
  register name script := (.ok (script.registers.get name), script)
  filetype script := (.ok script.filetype, script)

end Script
end Promptbook.Substitution
