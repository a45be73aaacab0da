import EngineClient.Json.Fault
import EngineClient.System.Failure
import EngineClient.Text.Duration
/-!
# Credential errors

Why a credential helper gave no result.
-/

namespace EngineClient

/-- A failure of starting a helper or of talking to it. -/
inductive StoreError where
  /-- The helper was not found when the store was made, or is gone since. -/
  | notInstalled (program : String)
  /-- The system did not start the helper for another reason. -/
  | launch (program : String) (errorNumber : Int) (words : String)
  /-- The helper exited with a failure; a helper ended by a signal has no exit code. -/
  | helperFailed (program : String) (exitCode : Option Int) (words : String)
  /-- The helper was still running at the deadline. -/
  | timeout (program : String) (after : Duration)
  /-- The helper succeeded and its output is not the expected document. -/
  | malformedOutput (program : String) (fault : Json.Fault)
  /-- Reading from the helper or writing to it failed. -/
  | io (program : String) (cause : Failure)
deriving Repr, DecidableEq

namespace StoreError

/-- The program that failed. -/
def program : StoreError → String
  | .notInstalled program => program
  | .launch program _ _ => program
  | .helperFailed program _ _ => program
  | .timeout program _ => program
  | .malformedOutput program _ => program
  | .io program _ => program

/-- The text shown for an error. -/
def message : StoreError → String
  | .notInstalled program => program ++ " not installed or not available in PATH"
  | .launch _ errorNumber words =>
    "Unexpected OS error \"" ++ words ++ "\", errno=" ++ toString errorNumber
  | .helperFailed program _ words =>
    "Credentials store " ++ program ++ " exited with \"" ++ words ++ "\"."
  | .timeout program after => "Credentials store " ++ program ++ " did not finish within " ++ after.shown
  | .malformedOutput program _ =>
    "Credentials store " ++ program ++ " returned malformed output: " ++ Json.faultDetail
  | .io program cause => "I/O error talking to " ++ program ++ ": " ++ cause.message

/-- The texts of the causes below an error, nearest first. -/
def causes : StoreError → List String
  | .malformedOutput .. => [Json.faultDetail]
  | .io _ cause => [cause.message]
  | _ => []

end StoreError

/-- Why a credential operation has no result. -/
inductive CredentialError where
  /-- The helper knows nothing of the server. -/
  | notFound (program : String)
  /-- The helper failed. -/
  | store (cause : StoreError)
deriving Repr, DecidableEq

namespace CredentialError

/-- The text shown for an error. -/
def message : CredentialError → String
  | .notFound program => "No matching credentials in " ++ program
  | .store cause => cause.message

/-- The program the error is about. -/
def program : CredentialError → String
  | .notFound program => program
  | .store cause => cause.program

/-- Whether the helper only knows nothing of the server. -/
def isNotFound : CredentialError → Bool
  | .notFound _ => true
  | .store _ => false

/-- The texts of the causes below an error, nearest first. -/
def causes : CredentialError → List String
  | .notFound _ => []
  | .store cause => cause.causes

end CredentialError

end EngineClient
