import LinkShelf.Model.Key
import LinkShelf.Model.Pace
import LinkShelf.Model.Wire
/-!
A client of one provider, and requests that are made again while that may help: after failures of
the line and after some answers of the server, each wait twice the one before up to a limit.
-/
namespace LinkShelf

structure Client where
  provider : Provider
  key : String
  model : String
  base : String
  timeout : Json := .int 60
  maxRetries : Int := 2
  baseDelay : Binary64 := .ofRatio false 1 1
  maxDelay : Binary64 := .ofRatio false 30 1
  deriving Repr

namespace Client

variable {τ : Type}

def trimSlashes (s : String) : String :=
  .ofList ((s.toList.reverse.dropWhile (· = '/')).reverse)

def numberOr (default_ : Binary64) : Json → Except Fault Binary64
  | .int n => Json.wholeAsReal n
  | .float x => .ok x
  | _ => .ok default_

/-- A client of a provider with the options that are given; null ones are not. -/
def ofOptions (p : Provider) (options : Members) : Except Fault Client := do
  let baseDelay ← numberOr (.ofRatio false 1 1) (options.get "base_delay")
  let maxDelay ← numberOr (.ofRatio false 30 1) (options.get "max_delay")
  let named (name other : String) : String := ((options.get name).orElse (.str other)).text
  pure
    { provider := p
      key := named "api_key" ""
      model := named "model" p.defaultModel
      base := trimSlashes (named "base_url" p.defaultBase)
      timeout := match options.get "timeout" with
        | .null => .int 60
        | v => v
      maxRetries := match options.get "max_retries" with
        | .int n => n
        | _ => 2
      baseDelay, maxDelay }

/-- Answers that another try may change. -/
def retryable : List Int := [408, 423, 429, 500, 502, 503, 504]

/-- Whether a failure may be gone at another try. -/
def mayPass (f : Fault) : Bool :=
  match f with
  | .model .authentication .. => false
  | .model _ _ _ status => status.any (· ∈ retryable)
  | f => f.family? = some .transport

/-- Failures of a request, as opposed to those of whoever makes it. -/
def concerns (f : Fault) : Bool :=
  match f with
  | .model .. => true
  | f => f.family? = some .transport || f.family? = some .http

def fault (c : Client) (kind : ModelFault) (message : String) (status : Option Int) : Fault :=
  .model kind message (some c.provider.name) status

def statusFault? (c : Client) (status : Int) : Option Fault :=
  let message := c.provider.displayName ++ " API error " ++ Json.intText status
  if status < 400 then none
  else if status = 401 ∨ status = 403 then
    some (c.fault .authentication (message ++ ": invalid API key or unauthorized access") status)
  else if status = 429 then
    some (c.fault .rateLimit (message ++ ": rate limit exceeded") status)
  else if 500 ≤ status then
    some (c.fault .unavailable (message ++ ": service unavailable") status)
  else some (c.fault .request message status)

def valueOf (c : Client) (r : Response) : Except Fault Json :=
  match c.statusFault? r.status with
  | some f => .error f
  | none =>
    match r.body.value with
    | .ok v => .ok v
    | .error e => .error (c.fault .request
        ("Invalid JSON response from " ++ c.provider.displayName ++ ": " ++ e.message) r.status)

def attempt (c : Client) (r : Request) : Act (Wire τ) Json := do
  let response ← Wire.send r
  c.valueOf response

/-- The failure that is told in the end, the key masked in its message. -/
def lastFault (c : Client) (f : Fault) : Fault :=
  let message := Key.mask f.message [c.key]
  match f with
  | .model kind _ _ status => c.fault kind message status
  | _ => c.fault .request (c.provider.displayName ++ " request failed: " ++ message) none

def half : Binary64 := .ofDecimal false 5 (-1)

def tenth : Binary64 := .ofDecimal false 1 (-1)

instance : Reckoning Binary64 where
  whole n := Json.wholeAsReal n
  zero := .zero
  half := half
  tenth := tenth
  add := .add
  sub := .sub
  mul := .mul
  modOne := .modOne
  lt := Binary64.lt

def pace (c : Client) : Pace Binary64 := ⟨c.baseDelay, c.maxDelay⟩

/-- Makes a request at some pace, up to so many times more after the `n`-th. -/
def tryFrom [Reckoning τ] (c : Client) (p : Pace τ) (r : Request) (n : Nat) :
    Nat → Act (Wire τ) Json
  | 0 => tryCatch (c.attempt r) fun f => do
    if !concerns f then throw f
    modify Wire.countError
    throw (c.lastFault f)
  | left + 1 => tryCatch (c.attempt r) fun f => do
    if !concerns f then throw f
    modify Wire.countError
    if !mayPass f then throw (c.lastFault f)
    let w ← get
    let time ← p.delay n (w.clock w.waits.length)
    modify (Wire.wait time)
    tryFrom c p r (n + 1) left

def askAt [Reckoning τ] (c : Client) (p : Pace τ) (r : Request) : Act (Wire τ) Json :=
  c.tryFrom p r 0 c.maxRetries.toNat

/-- The value that a request brings back. -/
def ask (c : Client) (r : Request) : Wire.Act Json := c.askAt c.pace r

end Client

end LinkShelf
