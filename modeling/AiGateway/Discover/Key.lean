import AiGateway.Config.Router
import AiGateway.Framework.RustStd
import Mathlib.Algebra.Order.Round
import Mathlib.Data.Rat.Floor

/-!
# The keys of the balancers

`discover/provider`, `discover/weighted` and the weight of the `weighted-balance`
crate: the keys under which a balancer holds its services, and the services each
strategy starts with.

A weight goes from a decimal through an `f64` to a fixed-point number of ten
thousandths. The rounding of `f64` is the parameter `rnd`, which only ever
matters through the weights it produces.
-/

namespace AiGateway

/-- A weight, in units of a ten thousandth. -/
structure Weight where
  raw : ℕ
  le_max : raw ≤ u32Max
  deriving DecidableEq

namespace Weight

/-- `Weight::MIN`. -/
def min : Weight := ⟨0, Nat.zero_le _⟩

/-- `Weight::UNIT`, the weight of one. -/
def unit : Weight := ⟨10000, by decide⟩

/-- `f64::round`: half way cases are rounded away from zero. -/
def roundHalfAway (q : ℚ) : ℤ := if 0 ≤ q then ⌊q + 1 / 2⌋ else ⌈q - 1 / 2⌉

/-- `From<f64>` on a finite number: negative numbers have no weight, and the
cast to `u32` saturates. -/
def ofF64 (rnd : ℚ → ℚ) (w : ℚ) : Weight :=
  if w < 0 then min
  else ⟨Nat.min (roundHalfAway (rnd (w * unit.raw))).toNat u32Max, Nat.min_le_right _ _⟩

/-- The weight of a configured decimal. -/
def ofDecimal (rnd : ℚ → ℚ) (w : ℚ) : Weight := ofF64 rnd (rnd w)

end Weight

/-- The key of the latency strategy. -/
structure Key where
  provider : InferenceProvider
  endpointType : EndpointType
  deriving DecidableEq

/-- The key of the weighted strategy. -/
structure WeightedKey where
  provider : InferenceProvider
  endpointType : EndpointType
  weight : Weight
  deriving DecidableEq

/-- The providers of a strategy. -/
def BalanceConfigInner.providers : BalanceConfigInner → List InferenceProvider
  | weighted providers => (providers.elems.map BalanceTarget.provider).dedup
  | latency providers => providers.elems

/-- The keys `ConfigDiscovery::new` inserts first; the map keeps one of each. -/
def Key.configured (config : RouterConfig) : List Key :=
  (config.loadBalance.entries.flatMap fun entry =>
    entry.2.providers.map fun provider => (⟨provider, entry.1⟩ : Key)).dedup

/-- The weighted keys of one endpoint type; `none` is the refusal of another strategy. -/
def WeightedKey.ofEntry (rnd : ℚ → ℚ) (entry : EndpointType × BalanceConfigInner) :
    Option (List WeightedKey) :=
  match entry.2 with
  | .weighted providers => some (providers.elems.map fun target =>
      ⟨target.provider, entry.1, Weight.ofDecimal rnd target.weight⟩)
  | .latency _ => none

/-- The keys `ConfigDiscovery::new_weighted` inserts first. -/
def WeightedKey.configured (rnd : ℚ → ℚ) (config : RouterConfig) : Option (List WeightedKey) :=
  (config.loadBalance.entries.mapM (WeightedKey.ofEntry rnd)).map fun keys => keys.flatten.dedup

end AiGateway
