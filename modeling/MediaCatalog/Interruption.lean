set_option autoImplicit false

namespace MediaCatalog

inductive Interruption where
  | cancelled
  | deadlineExceeded
  deriving DecidableEq, Repr

def Interruption.message : Interruption → String
  | cancelled => "operation cancelled"
  | deadlineExceeded => "deadline exceeded"

structure CancelToken where
  cancelled : Bool := false
  expired : Bool := false
  deriving DecidableEq, Repr, Inhabited

namespace CancelToken

def trip (token : CancelToken) : CancelToken :=
  { token with cancelled := true }

def interrupt (cause : Interruption) (token : CancelToken) : CancelToken :=
  match cause with
  | .cancelled => token.trip
  | .deadlineExceeded => { token with expired := true }

def interruption? (token : CancelToken) : Option Interruption :=
  if token.cancelled then some .cancelled
  else if token.expired then some .deadlineExceeded
  else none

end CancelToken

abbrev TokenId := Nat

structure Tokens where
  issued : List CancelToken := [{}]
  deriving DecidableEq, Repr, Inhabited

namespace Tokens

def get (tokens : Tokens) (id : TokenId) : CancelToken :=
  tokens.issued[id]?.getD {}

def issue (tokens : Tokens) (token : CancelToken) : TokenId × Tokens :=
  (tokens.issued.length, ⟨tokens.issued ++ [token]⟩)

def trip (tokens : Tokens) (id : TokenId) : Tokens :=
  ⟨tokens.issued.modify id CancelToken.trip⟩

def interrupt (tokens : Tokens) (id : TokenId) (cause : Interruption) : Tokens :=
  ⟨tokens.issued.modify id (CancelToken.interrupt cause)⟩

def interruption? (tokens : Tokens) (id : TokenId) : Option Interruption :=
  (tokens.get id).interruption?

end Tokens

/-- A time at which somebody else interrupts a running computation. -/
inductive Moment where
  /-- Before a look at a token, behind so many other looks. -/
  | look (earlier : Nat)
  /-- When so many rows have been written. -/
  | row (left : Nat)
  deriving DecidableEq, Repr

namespace Moment

def isLook : Moment → Bool
  | look 0 => true
  | _ => false

def afterLook : Moment → Moment
  | look (earlier + 1) => look earlier
  | moment => moment

def isWithin (written : Nat) : Moment → Bool
  | row left => 0 < left && left ≤ written
  | look _ => false

def afterRows (written : Nat) : Moment → Moment
  | row left => row (left - written)
  | moment => moment

end Moment

structure Alarm where
  token : TokenId
  cause : Interruption := .cancelled
  moment : Moment
  deriving DecidableEq, Repr

structure Watch where
  tokens : Tokens := {}
  alarms : List Alarm := []
  deriving DecidableEq, Repr

namespace Watch

def pass (watch : Watch) (due : Moment → Bool) (next : Moment → Moment) : Watch where
  tokens := (watch.alarms.filter (due ·.moment)).foldl
    (fun tokens alarm => tokens.interrupt alarm.token alarm.cause) watch.tokens
  alarms := (watch.alarms.filter (!due ·.moment)).map fun alarm =>
    { alarm with moment := next alarm.moment }

def look (watch : Watch) (token : TokenId) : Option Interruption × Watch :=
  let watch := watch.pass Moment.isLook Moment.afterLook
  (watch.tokens.interruption? token, watch)

def wrote (watch : Watch) (rows : Nat) : Watch :=
  watch.pass (Moment.isWithin rows) (Moment.afterRows rows)

end Watch

end MediaCatalog
