import Promptbook.Prompt.Basic

/-! Ordered collections of prompts.

A collection is a list, and a name finds the first prompt that bears it. Two
collections merge in one of two ways: the second is appended, or each of its prompts
takes the place of the first prompt with its name and only new names are appended. -/
namespace Promptbook

/-- What happens to a prompt whose name is already taken. -/
inductive MergePolicy where
  | accumulate
  | replace
  deriving DecidableEq, Inhabited

namespace MergePolicy

def text : MergePolicy → String
  | .accumulate => "accumulate"
  | .replace => "replace"

/-- The policy with this text. -/
def ofText? (text : String) : Option MergePolicy :=
  if text = "accumulate" then some .accumulate
  else if text = "replace" then some .replace
  else none

end MergePolicy

/-- Prompts in the order in which they were loaded. -/
abbrev Collection := List Prompt

namespace Collection

/-- The first prompt with this name. -/
def get? (prompts : Collection) (name : String) : Option Prompt :=
  prompts.find? (·.name = name)

def names (prompts : Collection) : List String := prompts.map (·.name)

/-- Puts a prompt in the place of the first one with its name, or at the end. -/
def put : Collection → Prompt → Collection
  | [], prompt => [prompt]
  | first :: rest, prompt =>
    if first.name = prompt.name then prompt :: rest else first :: put rest prompt

/-- The first collection followed by the second, name by name or prompt by prompt. -/
def merged (prompts others : Collection) : MergePolicy → Collection
  | .accumulate => prompts ++ others
  | .replace => others.foldl put prompts

/-! ### Small facts -/

@[simp] theorem merged_nil (prompts : Collection) (policy : MergePolicy) :
    merged prompts [] policy = prompts := by
  cases policy <;> simp [merged]

theorem merged_cons (prompts : Collection) (prompt : Prompt) (others : Collection) :
    merged prompts (prompt :: others) .replace = merged (put prompts prompt) others .replace := rfl

theorem merged_append (prompts a b : Collection) (policy : MergePolicy) :
    merged prompts (a ++ b) policy = merged (merged prompts a policy) b policy := by
  cases policy <;> simp [merged]

theorem get?_put (prompts : Collection) (prompt : Prompt) (name : String) :
    get? (put prompts prompt) name =
      if prompt.name = name then some prompt else get? prompts name := by
  induction prompts with
  | nil => by_cases h : prompt.name = name <;> simp [put, get?, h]
  | cons first rest ih =>
    simp only [get?] at ih ⊢
    by_cases hf : first.name = prompt.name
    · by_cases h : prompt.name = name <;> simp [put, hf, h]
    · rw [put, if_neg hf, List.find?_cons, List.find?_cons, ih]
      by_cases hn : first.name = name
      · have h : prompt.name ≠ name := fun e => hf (hn.trans e.symm)
        simp [hn, h]
      · simp [hn]

end Collection
end Promptbook
