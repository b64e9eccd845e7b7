import Moadian.Errors

/-! The two deployments of the service, and the spellings that name them. -/
namespace Moadian.Config

inductive Environment where
  | sandbox | production
  deriving DecidableEq, Repr

namespace Environment

def value : Environment → String
  | sandbox => "sandbox"
  | production => "production"

def aliases : List (String × Environment) := [
  ("sandbox",sandbox),("sandboxrc",sandbox),("production",production),("prod",production),
  ("operational",production),("tp",production)]

/- `str(value).strip().lower()`. No character beyond ASCII lowers to a letter of an alias,
and no value that is not a string is written as one. -/
def spelling : Json → String
  | .str text => String.ofList
      (((text.toList.dropWhile Json.isSpace).reverse.dropWhile Json.isSpace).reverse.map Char.toLower)
  | _ => ""

def parse (repr : Json → String) (value : Json) : Except Exc Environment :=
  match aliases.lookup (spelling value) with
  | some environment => .ok environment
  | none => .error (.configuration ("unknown environment " ++ repr value ++
      "; expected one of operational, prod, production, sandbox, sandboxrc, tp"))

def host : Environment → String
  | sandbox => "sandboxrc.tax.gov.ir"
  | production => "tp.tax.gov.ir"

def baseUrl (environment : Environment) : String := "https://" ++ environment.host ++ "/requestsmanager"

theorem parseValue (repr : Json → String) (environment : Environment) :
    parse repr (.str environment.value) = .ok environment := by
  have named : aliases.lookup (spelling (.str environment.value)) = some environment := by
    cases environment <;> decide +kernel
  rw [parse,named]

end Environment
end Moadian.Config
