import Starweaver.Library.Json
import Starweaver.Library.SortBy
import Starweaver.Library.Text
import Starweaver.Gateway.Domain

namespace Starweaver.Gateway

open Library Library.Calendar Library.MachineInt Library.SortBy Library.Text

structure PricingSkuRecord where
  pricingSkuId : String
  tenantId : String
  organizationId : Option String
  name : String
  currency : String
  unit : String
  modelIdPatterns : List String
  providerEndpointPatterns : List String
  pricingDocument : Json
  pricingVersion : Int
  effectiveFrom : DateTime
  effectiveUntil : Option DateTime
  status : ResourceStatus

def runtimePricingSkuIsAvailable (sku : PricingSkuRecord) (actor : AuthenticatedActor) (now : DateTime) : Bool :=
  sku.tenantId == actor.tenantId && sku.status == .active &&
    sku.organizationId.all (fun organizationId => some organizationId == actor.organizationId) &&
    decide (sku.effectiveFrom ≤ now) && sku.effectiveUntil.all (fun effectiveUntil => decide (now < effectiveUntil))

def pricingSkuSpecificity (sku : PricingSkuRecord) : Nat :=
  ((sku.modelIdPatterns ++ sku.providerEndpointPatterns).map fun pattern =>
    (pattern.toList.filter (· != '*')).length).sum

def pricingPatternMatches (pattern value : String) : Bool :=
  if pattern == "*" || pattern == value then true
  else if !pattern.toList.contains '*' then false
  else
    let start := pattern.toList.takeWhile (· != '*')
    let rest := pattern.toList.drop (start.length + 1)
    start.isPrefixOf value.toList && rest.isSuffixOf value.toList

def pricingPatternsMatch (patterns : List String) (value : String) : Bool :=
  patterns.any fun pattern => pricingPatternMatches (trim pattern) value

def pricingSkusForTenant (skus : List PricingSkuRecord) (tenantId : String) : List PricingSkuRecord :=
  sortBy (fun left right => (compare left.name right.name).then (compare left.pricingSkuId right.pricingSkuId))
    (skus.filter fun sku => sku.tenantId == tenantId)

def minBy {α : Type} (cmp : α → α → Ordering) : List α → Option α
  | [] => none
  | x :: xs => some (xs.foldl (fun best y => if cmp y best = .lt then y else best) x)

def resolveRuntimePricingSku (skus : List PricingSkuRecord) (actor : AuthenticatedActor)
    (upstreamModelId providerEndpointId : String) (explicitPricingSkuId : Option String) (now : DateTime) :
    Option PricingSkuRecord :=
  match explicitPricingSkuId with
  | some pricingSkuId =>
    (skus.find? fun sku => sku.pricingSkuId == pricingSkuId).filter fun sku =>
      runtimePricingSkuIsAvailable sku actor now
  | none =>
    minBy (fun left right => (compare (pricingSkuSpecificity right) (pricingSkuSpecificity left)).then
        ((compare left.name right.name).then (compare left.pricingSkuId right.pricingSkuId)))
      ((pricingSkusForTenant skus actor.tenantId).filter fun sku =>
        runtimePricingSkuIsAvailable sku actor now && pricingPatternsMatch sku.modelIdPatterns upstreamModelId &&
          (sku.providerEndpointPatterns.isEmpty || pricingPatternsMatch sku.providerEndpointPatterns providerEndpointId))

def unpricedCostPayload : Json :=
  .object [("currency", .string "USD"), ("unit", .string "micro_usd"), ("input_cost", .number 0),
    ("output_cost", .number 0), ("cache_read_cost", .number 0), ("cache_write_cost", .number 0),
    ("reasoning_cost", .number 0), ("media_cost", .number 0), ("request_cost", .number 0), ("total_cost", .number 0),
    ("confidence", .string "unpriced"), ("pricing_sku_id", .null), ("pricing_version", .string "unpriced"),
    ("rounding_mode", .string "none"), ("diagnostics", .array [.string "pricing_resolution_not_connected"])]

def fixedPerMillionCost (units pricePerMillion : Int) (roundingMode : String) : Int :=
  let raw := units * pricePerMillion
  let value := if roundingMode == "floor_per_event" then raw.tdiv 1000000
    else if raw = 0 then 0 else (raw + 1000000 - 1).tdiv 1000000
  if i64Min ≤ value ∧ value ≤ i64Max then value else i64Max

def nonNegativeI64 (value : Json) (key : String) : Int := max (((value.get key).bind Json.asI64).getD 0) 0

def tokenComponentCost (usagePayload tokenPrices : Json) (usageKey priceKey roundingMode : String) : Int :=
  fixedPerMillionCost (nonNegativeI64 usagePayload usageKey) (nonNegativeI64 tokenPrices priceKey) roundingMode

def costPayloadFromPricingSku (sku : PricingSkuRecord) (usagePayload : Json) : Json :=
  let document := sku.pricingDocument
  let roundingMode := ((document.get "rounding").bind Json.asStr).getD "ceil_per_event"
  let tokenPrices := (document.get "tokens").getD .null
  let component := fun usageKey priceKey => tokenComponentCost usagePayload tokenPrices usageKey priceKey roundingMode
  let inputCost := component "input_tokens" "input_per_million"
  let outputCost := component "output_tokens" "output_per_million"
  let cacheReadCost := component "cache_read_tokens" "cache_read_per_million"
  let cacheWriteCost := saturatingAdd (saturatingAdd (component "cache_write_tokens" "cache_write_per_million")
    (component "cache_write_5m_tokens" "cache_write_5m_per_million"))
    (component "cache_write_1h_tokens" "cache_write_1h_per_million")
  let reasoningCost := component "reasoning_tokens" "reasoning_per_million"
  let mediaCost := 0
  let requestCost := nonNegativeI64 document "flat_request_cost"
  let totalCost := [outputCost, cacheReadCost, cacheWriteCost, reasoningCost, mediaCost, requestCost].foldl
    saturatingAdd inputCost
  .object [("currency", .string sku.currency), ("unit", .string sku.unit), ("input_cost", .number inputCost),
    ("output_cost", .number outputCost), ("cache_read_cost", .number cacheReadCost),
    ("cache_write_cost", .number cacheWriteCost), ("reasoning_cost", .number reasoningCost),
    ("media_cost", .number mediaCost), ("request_cost", .number requestCost), ("total_cost", .number totalCost),
    ("confidence", .string "estimated"), ("pricing_sku_id", .string sku.pricingSkuId),
    ("pricing_version", .string (toString sku.pricingVersion)), ("rounding_mode", .string roundingMode),
    ("diagnostics", .array [])]

end Starweaver.Gateway
