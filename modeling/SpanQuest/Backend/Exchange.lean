/-
  Exchanges with a backend: what is posted to it, and what comes back.

  A `Token` belongs to one exchange.  Once it is tripped, nobody waits for the
  answer, and a response that comes in all the same has no result.
-/
import SpanQuest.Trouble

namespace SpanQuest.Backend

/-- What is posted to a backend. -/
structure Post where
  url : String
  /-- The value of the header that carries a credential. -/
  authorization : Option String
  body : Json
  deriving Inhabited

/-- The method of every exchange. -/
def Post.method : String := "POST"

/-- The type of the content of every post. -/
def Post.contentType : String := "application/json"

/-- What comes back from a backend. -/
inductive Answer where
  | response (status : Int) (body : ByteArray)
  /-- The connection failed. -/
  | unreachable (detail : String)
  /-- What carries the exchange reports a failure of its own. -/
  | failed (f : Failure)
  /-- Anything else went wrong on the way. -/
  | broken (fault : Fault)
  deriving Inhabited

/-! ## Tokens -/

/-- Whether the caller of an exchange still waits; any value may be the reason. -/
structure Token where
  tripped : Bool
  reason : Json
  deriving Inhabited

namespace Token

/-- The token of an exchange that begins. -/
def fresh : Token := ⟨false, .text ""⟩

/-- The reason of one who gives none. -/
def defaultReason : Json := .text "cancelled"

/-- Trips the token; the last reason counts. -/
def trip (_ : Token) (reason : Json) : Token := ⟨true, reason⟩

/-- A withdrawal, if the token is tripped. -/
def check (t : Token) : Except Trouble Unit :=
  if t.tripped then .error (.withdrawn t.reason.display) else .ok ()

@[simp] theorem check_fresh : fresh.check = .ok () := rfl

end Token

end SpanQuest.Backend
