import Moadian.Rules.Violations

/-! The exceptions a request can end with, each with what it carries. -/
namespace Moadian

structure ApiFailure where
  message : String
  statusCode : Option Nat := none
  errors : List (String × String) := []
  requestTraceId : Option String := none
  deriving DecidableEq, Repr

inductive Exc where
  | http (status : Nat) (detail : Json)
  | invoiceValidation (violations : List Violation)
  | configuration (message : String)
  | cryptography (message : String)
  | invalidTaxId (message : String)
  | transport (message : String)
  | taxApi (failure : ApiFailure)
  | authentication (failure : ApiFailure)
  | unknownResponse (failure : ApiFailure)
  | valueError (message : String)
  | typeError (message : String)
  | overflowError (message : String)
  | osError (message : String)
  deriving Repr

end Moadian
