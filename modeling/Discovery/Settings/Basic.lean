import Discovery.Cache.Limits
import Discovery.Cleanup.Basic
import Discovery.Decimal.Natural
import Discovery.Store.Basic
import Discovery.Text.Blank
import Discovery.Text.Quoted
/-!
Settings read from named variables.

* `Variable`: the six variables, in the order in which they are asked for;
* `Settings.assign`: what the text of a variable does to the settings;
* `Settings.load`: all variables in turn, up to the first fault.
-/

namespace Discovery

/-- The limits of the cache and the policy of cleanups. -/
structure Settings where
  cache : Limits
  cleanup : Cleanup.Policy
  deriving DecidableEq, Repr

/-- The variables that settings are read from. -/
inductive Variable
  | cacheCapacity
  | namespaceTtl
  | serviceTtl
  | endpointTtl
  | pollInterval
  | pollAttempts
  deriving DecidableEq, Repr

namespace Variable

/-- The variables in the order in which they are asked for. -/
def all : List Variable :=
  [cacheCapacity, namespaceTtl, serviceTtl, endpointTtl, pollInterval, pollAttempts]

/-- The name of a variable. -/
def name : Variable → String
  | cacheCapacity => "CLOUDMAP_CACHE_CAPACITY"
  | namespaceTtl => "CLOUDMAP_NAMESPACE_TTL_SECS"
  | serviceTtl => "CLOUDMAP_SERVICE_TTL_SECS"
  | endpointTtl => "CLOUDMAP_ENDPOINT_TTL_MILLIS"
  | pollInterval => "CLOUDMAP_OPERATION_POLL_INTERVAL_MILLIS"
  | pollAttempts => "CLOUDMAP_OPERATION_POLL_ATTEMPTS"

end Variable

/-- What is wrong with a variable: its text is not a positive number that the
setting can hold, or the time to live is longer than any. -/
inductive Fault
  | notPositive (var : Variable) (text : String)
  | ttlTooLarge (var : Variable)
  deriving DecidableEq, Repr

/-- The text of a fault. -/
def Fault.message : Fault → String
  | notPositive var text =>
      var.name ++ " must be a positive integer, got " ++ Text.quoted text
  | ttlTooLarge var =>
      var.name ++ " exceeds the maximum TTL of " ++
        toString Store.maxTtl.secs.toNat ++ "s"

/-! ### The text of a variable -/

/-- The number that a text stands for: digits, after a plus sign or not. -/
def signedDigits? : List Char → Option Nat
  | '+' :: digits => Decimal.natural? digits
  | digits => Decimal.natural? digits

namespace Variable

/-- The positive number in the text of a variable that is set; blank text
counts as not set. -/
def positive (var : Variable) (text : Option String) : Except Fault (Option UInt64) :=
  match text with
  | none => .ok none
  | some raw =>
      let trimmed := Text.trim raw.toList
      if trimmed.isEmpty then .ok none
      else match signedDigits? trimmed with
        | some n =>
            if 0 < n ∧ n < UInt64.size then .ok (some (UInt64.ofNat n))
            else .error (.notPositive var raw)
        | none => .error (.notPositive var raw)

/-- The time to live in the text of a variable, counted in a unit. -/
def ttl (var : Variable) (unit : UInt64 → Duration) (text : Option String) :
    Except Fault (Option Duration) := do
  match ← var.positive text with
  | none => .ok none
  | some n =>
      if Store.maxTtl < unit n then .error (.ttlTooLarge var)
      else .ok (some (unit n))

end Variable

/-! ### Settings -/

namespace Settings

/-- The settings that hold unless variables say otherwise. -/
def standard : Settings := ⟨.standard, .standard⟩

instance : Inhabited Settings := ⟨standard⟩

/-- The settings with the text of one variable taken into account. -/
def assign (s : Settings) (var : Variable) (text : Option String) : Except Fault Settings :=
  match var with
  | .cacheCapacity => do
      match ← var.positive text with
      | none => .ok s
      | some n => .ok { s with cache.capacity := n }
  | .namespaceTtl => do
      match ← var.ttl .ofSecs text with
      | none => .ok s
      | some ttl => .ok { s with cache.namespaceTtl := ttl }
  | .serviceTtl => do
      match ← var.ttl .ofSecs text with
      | none => .ok s
      | some ttl => .ok { s with cache.serviceTtl := ttl }
  | .endpointTtl => do
      match ← var.ttl .ofMillis text with
      | none => .ok s
      | some ttl => .ok { s with cache.endpointTtl := ttl }
  | .pollInterval => do
      match ← var.positive text with
      | none => .ok s
      | some n => .ok { s with cleanup.interval := .ofMillis n }
  | .pollAttempts => do
      match ← var.positive text with
      | none => .ok s
      | some n =>
          if n.toNat < UInt32.size then .ok { s with cleanup.attempts := n.toUInt32 }
          else .error (.notPositive var (toString n.toNat))

/-- The variables that are asked for, and what comes of them, in turn up to
the first fault. -/
def loadFrom (lookup : String → Option String) :
    List Variable → Settings → List Variable × Except Fault Settings
  | [], s => ([], .ok s)
  | var :: rest, s =>
      match s.assign var (lookup var.name) with
      | .error fault => ([var], .error fault)
      | .ok s =>
          let (asked, result) := loadFrom lookup rest s
          (var :: asked, result)

/-- The settings of a set of variables, with the variables that were asked
for. -/
def load (lookup : String → Option String) : List Variable × Except Fault Settings :=
  loadFrom lookup Variable.all standard

end Settings

end Discovery
