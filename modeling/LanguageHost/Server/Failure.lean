import LanguageHost.Server.Message

/-!
# Failed requests

A response with an error makes its request fail. The kind of the failure is read off the error's
code; the error must have a code and, unless its kind has a message of its own, a message, and no
field beside code, message and data.
-/

namespace LanguageHost.Failure

/-- The codes with a kind of their own. -/
def codes : List (Int × RpcKind) :=
  [(-32700, .parse), (-32600, .invalidRequest), (-32601, .methodNotFound),
    (-32602, .invalidParams), (-32800, .cancelled)]

/-- A value lies between two integers. -/
def isBetween (low high : Int) : Json → Bool
  | .bool b => let n := if b then 1 else 0; low ≤ n && n ≤ high
  | .int n => low ≤ n && n ≤ high
  | .float (.finite negative significand exponent) =>
    let (num, den) := Binary64.toRatio significand exponent
    let n : Int := if negative then -(num : Int) else num
    low * den ≤ n && n ≤ high * den
  | _ => false

/-- The kind of the failure with a code. -/
def kindOf (code : Json) : Except Fault RpcKind :=
  match codes.find? fun c => code.isInt c.1 with
  | some c => .ok c.2
  | none =>
    if code.number?.isNone then .error (.misuse (.noOrder "<=" "int" code.kindWord))
    else if isBetween (-32099) (-32000) code then .ok .server
    else .ok .other

/-- The fields of an error. -/
def fields : List Text :=
  ["code", "message", "data"]

/-- The failure has words of its own when the error brings none. -/
def hasOwnMessage : RpcKind → Bool
  | .other | .server => false
  | _ => true

/-- What makes a failure of a kind out of the fields of an error. -/
def maker (kind : RpcKind) : String :=
  Fault.rpcClassName (if kind = .server then .server else .other) ++ ".__init__"

/-- The failure itself is handed over under this name. -/
def ownName : Text := "self"

/-- The first member that an error must not have. -/
def checkFields (kind : RpcKind) (members : List (Text × Json)) : Except Fault Unit :=
  match members.find? fun m => !fields.contains m.1 with
  | none => .ok ()
  | some m =>
    if m.1 = ownName then .error (.misuse (.repeatedField (maker kind) m.1.display))
    else .error (.misuse (.unknownField (maker kind) m.1.display))

/-- The failure that an error makes of a request. -/
def ofError (error : Json) : Except Fault Fault := do
  let code ← error.require "code"
  let kind ← kindOf code
  match error with
  | .obj members =>
    checkFields kind members
    let message := error.member? "message"
    if kind = .server && message.isNone then
      throw (.misuse (.absentField (maker kind) "message"))
    let shown := message.getD .null
    if shown.isEmpty && !hasOwnMessage kind then
      throw (.noClassMember (Fault.rpcClassName kind) "MESSAGE")
    if code.isEmpty && !hasOwnMessage kind then
      throw (.noClassMember (Fault.rpcClassName kind) "CODE")
    return .rpc kind shown.shown
  | other => throw (.misuse (.noFields "function" other.kindWord))

end LanguageHost.Failure
