import Dismantle.Text.Blank
import Dismantle.Text.Case
/-! Asking before anything is deleted. -/
namespace Dismantle.Teardown

/-- Only a plain yes is consent, with blanks around it and in letters of either case. -/
def isConsent (answer : String) : Bool :=
  let word := Text.lower (Text.strip answer)
  word == "yes" || word == "y"

def question (envId : String) : String :=
  "Are you sure you want to delete infrastructure for \"" ++ envId
    ++ "\"? This operation cannot be undone!"

end Dismantle.Teardown
