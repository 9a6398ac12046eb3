import AiGateway.Types.Provider
import Mathlib.Data.List.Basic
import Mathlib.Data.Rat.Defs
import Mathlib.Algebra.Order.Ring.Rat
import Mathlib.Tactic.Common

/-!
# Load balancing configuration

`config/balance.rs` and `config/router.rs`: the strategy of each endpoint type,
and the check a router's configuration passes before any balancer is built.
Decimals are rationals; the sets and the map of the configuration are lists in the
order they are iterated.
-/

namespace AiGateway

/-- A set with at least one element. -/
structure NESet (α : Type) where
  elems : List α
  nodup : elems.Nodup
  ne_nil : elems ≠ []

/-- A provider and its share of the traffic. -/
structure BalanceTarget where
  provider : InferenceProvider
  weight : ℚ
  deriving DecidableEq

inductive BalanceConfigInner
  | weighted (providers : NESet BalanceTarget)
  | latency (providers : NESet InferenceProvider)

/-- The strategy of each endpoint type; an endpoint type has one entry. -/
structure BalanceConfig where
  entries : List (EndpointType × BalanceConfigInner)
  nodup : (entries.map Prod.fst).Nodup

/-- `HashMap::get`. -/
def BalanceConfig.get (config : BalanceConfig) (endpointType : EndpointType) :
    Option BalanceConfigInner :=
  config.entries.lookup endpointType

/-- What the balancers read of a router's configuration. -/
structure RouterConfig where
  loadBalance : BalanceConfig

/-- `InitError::InvalidWeightedBalancer`, with the sum its text ends in. -/
structure InvalidWeightedBalancer where
  total : ℚ

/-- The check on the strategy of one endpoint type. -/
def BalanceConfigInner.validate : BalanceConfigInner → Except InvalidWeightedBalancer Unit
  | weighted providers =>
    let total := (providers.elems.map BalanceTarget.weight).sum
    if total ≠ 1 then .error ⟨total⟩ else .ok ()
  | latency _ => .ok ()

/-- `RouterConfig::validate`: the weights of every weighted strategy sum to one. -/
def RouterConfig.validate (config : RouterConfig) : Except InvalidWeightedBalancer Unit :=
  config.loadBalance.entries.forM fun entry => entry.2.validate

end AiGateway
