import GameClient.Action
import GameClient.Gateway.Operation

/-!
# Errors of actions

Every action ends in a value or in an `ActionError`. An error has a message for the user, a code for
programs, and a category: what the user got wrong, what does not exist, what the backend did not do,
and what is under way already. The category decides whether to try again.
-/

namespace GameClient

open Text (inspect inspectRecord inspectWrapped)

/-- What is wrong with the input of an action, or with the moment it is started at. -/
inductive ValidationError where
  | missingNickname
  | missingInviteCode
  | missingCredentials
  | notAwaitingFinalization (phase : String)
  | nonPositiveFinishTime
  | nonPositiveStartAmount
  | switchUnavailable (phase : String)
  | schemaNotLoaded
  | malformedPurchaseData
  deriving DecidableEq, Repr

def ValidationError.message : ValidationError → String
  | missingNickname => "a chain nickname is required"
  | missingInviteCode => "an invite code is required to join a game"
  | missingCredentials => "no invite code and passcode are held for finalization"
  | notAwaitingFinalization phase => "cannot finalize while " ++ phase
  | nonPositiveFinishTime => "finish time must be greater than zero"
  | nonPositiveStartAmount => "start amount must be greater than zero"
  | switchUnavailable phase => "cannot switch games while " ++ phase
  | schemaNotLoaded => "purchase schema has not been loaded"
  | malformedPurchaseData => "purchase data must be a JSON object"

def ValidationError.kind : ValidationError → String
  | missingNickname => "MissingNickname"
  | missingInviteCode => "MissingInviteCode"
  | missingCredentials => "MissingCredentials"
  | notAwaitingFinalization _ => "NotAwaitingFinalization"
  | nonPositiveFinishTime => "NonPositiveFinishTime"
  | nonPositiveStartAmount => "NonPositiveStartAmount"
  | switchUnavailable _ => "SwitchUnavailable"
  | schemaNotLoaded => "SchemaNotLoaded"
  | malformedPurchaseData => "MalformedPurchaseData"

instance : Text.Inspect ValidationError where
  inspect
    | .notAwaitingFinalization phase =>
      inspectRecord "NotAwaitingFinalization" [("phase", inspect phase)]
    | .switchUnavailable phase => inspectRecord "SwitchUnavailable" [("phase", inspect phase)]
    | error => error.kind

/-- Why an action failed. -/
inductive ActionError where
  | validation (error : ValidationError)
  | backendRejected (operation : Gateway.Operation) (reason : String)
  | backendUnavailable (operation : Gateway.Operation) (reason : String)
  | unknownHandle (publicKey : String)
  | actionPending (action : Action)
  deriving DecidableEq, Repr

/-- The kinds of errors that a user interface tells apart. -/
inductive ErrorCategory where
  | input
  | notFound
  | backend
  | busy
  deriving DecidableEq, Repr

namespace ErrorCategory

def label : ErrorCategory → String
  | input => "Input"
  | notFound => "Not Found"
  | backend => "Backend"
  | busy => "Busy"

/-- The user can mend the input. -/
def isCorrectable : ErrorCategory → Bool
  | input => true
  | _ => false

/-- Trying again may help. -/
def isRecoverable : ErrorCategory → Bool
  | notFound => false
  | _ => true

end ErrorCategory

namespace ActionError

/-- A failure of an operation, as the error of the action that asked for it. -/
def ofFailure (operation : Gateway.Operation) : Gateway.Failure → ActionError
  | .rejected reason => backendRejected operation reason
  | .unavailable reason => backendUnavailable operation reason

def message : ActionError → String
  | validation error => "invalid input: " ++ error.message
  | backendRejected operation reason => operation.name ++ " rejected by backend: " ++ reason
  | backendUnavailable operation reason => operation.name ++ " unavailable: " ++ reason
  | unknownHandle key => "unknown game handle: " ++ key
  | actionPending action => action.text ++ " already in progress"

def category : ActionError → ErrorCategory
  | validation _ => .input
  | backendRejected .. => .backend
  | backendUnavailable .. => .backend
  | unknownHandle _ => .notFound
  | actionPending _ => .busy

def code : ActionError → String
  | validation _ => "VALIDATION"
  | backendRejected .. => "BACKEND_REJECTED"
  | backendUnavailable .. => "BACKEND_UNAVAILABLE"
  | unknownHandle _ => "UNKNOWN_HANDLE"
  | actionPending _ => "ACTION_PENDING"

/-- The name of the kind of error; of a faulty input, the kind of fault. -/
def kind : ActionError → String
  | validation error => error.kind
  | backendRejected .. => "BackendRejected"
  | backendUnavailable .. => "BackendUnavailable"
  | unknownHandle _ => "UnknownHandle"
  | actionPending _ => "ActionPending"

instance : Text.Inspect ActionError where
  inspect
    | validation error => inspectWrapped "Validation" (inspect error)
    | backendRejected operation reason =>
      inspectRecord "BackendRejected" [("operation", inspect operation), ("reason", inspect reason)]
    | backendUnavailable operation reason =>
      inspectRecord "BackendUnavailable"
        [("operation", inspect operation), ("reason", inspect reason)]
    | unknownHandle key => inspectRecord "UnknownHandle" [("public_key", inspect key)]
    | actionPending action => inspectRecord "ActionPending" [("action", inspect action)]

end ActionError

end GameClient
