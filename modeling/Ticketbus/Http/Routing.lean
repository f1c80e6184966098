import Mathlib.Data.List.MinMax

/-! HTTP request routing: percent-escapes of paths, a gateway whose rules have priorities,
and a router that searches its routes segment by segment, fixed segments before parameters.
Neither is part of the repository: `Rule.accepts` and `choose` are what Traefik documents of
its rules, `search` is what chi does with a routing table, and both are assumed. -/
namespace Ticketbus.Http

inductive Method where
  | get
  | post
  | put
  | patch
  | delete
  | other (name : String)
  deriving DecidableEq, Repr

abbrev Path := List Char

def hexDigit (digit : Char) : Option Nat :=
  if '0' ≤ digit ∧ digit ≤ '9' then some (digit.toNat - '0'.toNat)
  else if 'a' ≤ digit ∧ digit ≤ 'f' then some (digit.toNat - 'a'.toNat + 10)
  else if 'A' ≤ digit ∧ digit ≤ 'F' then some (digit.toNat - 'A'.toNat + 10)
  else none

/-- Every escaped byte becomes a character of its own. -/
def unescape : Path → Option Path
  | [] => some []
  | letter :: rest =>
    if letter = '%' then
      match rest with
      | high :: low :: rest => do
        let high ← hexDigit high
        let low ← hexDigit low
        let rest ← unescape rest
        return Char.ofNat (16 * high + low) :: rest
      | _ => none
    else (letter :: ·) <$> unescape rest

theorem unescape_append {fixed : Path} (plain : '%' ∉ fixed) (rest : Path) :
    unescape (fixed ++ rest) = (fixed ++ ·) <$> unescape rest := by
  induction fixed with
  | nil => simp
  | cons letter fixed ih =>
    have literal : letter ≠ '%' := fun same => plain (same ▸ List.mem_cons_self)
    rw [List.cons_append,unescape.eq_def]
    simp only [if_neg literal,ih fun escaped => plain (List.mem_cons_of_mem _ escaped),← comp_map]
    rfl

theorem unescape_begins {fixed target path : Path} (plain : '%' ∉ fixed) (begins : fixed <+: target)
    (unescaped : unescape target = some path) : fixed <+: path := by
  obtain ⟨rest,rfl⟩ := begins
  rw [unescape_append plain,Option.map_eq_map,Option.map_eq_some_iff] at unescaped
  obtain ⟨tail,-,rfl⟩ := unescaped
  exact List.prefix_append fixed tail

theorem unescape_plain {fixed : Path} (plain : '%' ∉ fixed) : unescape fixed = some fixed := by
  simpa [unescape] using unescape_append plain []

/-! The gateway. -/

inductive Rule where
  | pathPrefix (fixed : String)
  | path (fixed : String)
  | method (method : Method)
  | and (left right : Rule)
  | not (rule : Rule)
  deriving DecidableEq, Repr

namespace Rule

def accepts (method : Method) (path : Path) : Rule → Bool
  | .pathPrefix fixed => fixed.toList.isPrefixOf path
  | .path fixed => fixed.toList = path
  | .method allowed => allowed = method
  | .and left right => left.accepts method path && right.accepts method path
  | .not rule => !rule.accepts method path

/-- What the accepted paths begin with, as far as a rule's first conjunct says it. -/
def base : Rule → Path
  | .pathPrefix fixed | .path fixed => fixed.toList
  | .and left _ => left.base
  | .method _ | .not _ => []

/-- Whether a rule has no conjunct that asks for another method. -/
def allows (method : Method) : Rule → Bool
  | .method allowed => allowed = method
  | .and left right => left.allows method && right.allows method
  | .pathPrefix _ | .path _ | .not _ => true

theorem allows_of_accepts {method : Method} {path : Path} {rule : Rule} (accepted : rule.accepts method path = true) :
    rule.allows method = true := by
  induction rule with
  | method => exact accepted
  | pathPrefix | path | not => rfl
  | and left right first second =>
    rw [accepts,Bool.and_eq_true] at accepted
    exact Bool.and_eq_true_iff.mpr ⟨first accepted.1,second accepted.2⟩

theorem base_begins {method : Method} {path : Path} {rule : Rule} (accepted : rule.accepts method path = true) :
    rule.base <+: path := by
  induction rule with
  | pathPrefix fixed => exact List.isPrefixOf_iff_prefix.mp accepted
  | path fixed => exact of_decide_eq_true accepted ▸ List.prefix_rfl
  | method | not => exact List.nil_prefix
  | and left right first =>
    rw [accepts,Bool.and_eq_true] at accepted
    exact first accepted.1

end Rule

structure Router (Service : Type) where
  rule : Rule
  service : Service
  forwardAuth : Bool
  priority : Nat
  deriving DecidableEq, Repr

/-- A router with the highest priority of those that accept the request. -/
def choose {Service : Type} (routers : List (Router Service)) (method : Method) (path : Path) :
    Option (Router Service) :=
  (routers.filter fun router => router.rule.accepts method path).argmax Router.priority

theorem choose_accepts {Service : Type} {routers : List (Router Service)} {method : Method} {path : Path}
    {router : Router Service} (chosen : choose routers method path = some router) :
    router ∈ routers ∧ router.rule.accepts method path = true :=
  List.mem_filter.mp (List.argmax_mem chosen)

/-! The router of a service. -/

inductive Segment where
  | fixed (text : String)
  | param (name : String)
  deriving DecidableEq, Repr

structure Route (Endpoint : Type) where
  method : Method
  pattern : List Segment
  endpoint : Endpoint
  deriving DecidableEq, Repr

/-- A parameter may stand for an empty segment, except at the end of the path. -/
def fits : List Segment → List Path → Bool
  | [],[] => true
  | .fixed text :: pattern,segment :: rest => text.toList = segment && fits pattern rest
  | .param _ :: pattern,segment :: rest => !(segment.isEmpty && rest.isEmpty) && fits pattern rest
  | _,_ => false

section Search
variable {Endpoint : Type}

def Segment.spells (segment : Path) : Segment → Bool
  | .fixed text => text.toList = segment
  | .param _ => false

def Segment.isParam : Segment → Bool
  | .fixed _ => false
  | .param _ => true

/-- What is left of a route after a first segment of the kind that is asked for. -/
def Route.descend (kind : Segment → Bool) (route : Route Endpoint) : Option (Route Endpoint) :=
  match route.pattern with
  | [] => none
  | first :: rest => if kind first then some {route with pattern := rest} else none

/-- A fixed segment goes before a parameter, also where the path then leads nowhere for the
method: the search comes back and takes the parameter. -/
def search (method : Method) (routes : List (Route Endpoint)) : List Path → Option Endpoint
  | [] => (routes.find? fun route => route.pattern.isEmpty && route.method = method).map Route.endpoint
  | segment :: rest =>
    search method (routes.filterMap (Route.descend (Segment.spells segment))) rest <|>
      if segment.isEmpty && rest.isEmpty then none
      else search method (routes.filterMap (Route.descend Segment.isParam)) rest

theorem Route.descend_eq_some {kind : Segment → Bool} {route tail : Route Endpoint}
    (descended : route.descend kind = some tail) :
    ∃ first, kind first = true ∧ route = {tail with pattern := first :: tail.pattern} := by
  obtain ⟨method,pattern,endpoint⟩ := route
  cases pattern with
  | nil => cases descended
  | cons first rest =>
    simp only [Route.descend] at descended
    split at descended
    · rename_i wanted
      cases descended
      exact ⟨first,wanted,rfl⟩
    · cases descended

theorem search_fits {method : Method} {routes : List (Route Endpoint)} {segments : List Path} {endpoint : Endpoint}
    (found : search method routes segments = some endpoint) :
    ∃ route ∈ routes, route.method = method ∧ fits route.pattern segments = true ∧ route.endpoint = endpoint := by
  induction segments generalizing routes with
  | nil =>
    obtain ⟨route,first,rfl⟩ := Option.map_eq_some_iff.mp found
    have passes := List.find?_some first
    rw [Bool.and_eq_true,List.isEmpty_iff] at passes
    exact ⟨route,List.mem_of_find?_eq_some first,of_decide_eq_true passes.2,by rw [passes.1]; rfl,rfl⟩
  | cons segment rest ih =>
    rw [search,Option.orElse_eq_some] at found
    rcases found with found | ⟨-,found⟩
    · obtain ⟨tail,descended,method,fitting,rfl⟩ := ih found
      obtain ⟨route,listed,descended⟩ := List.mem_filterMap.mp descended
      obtain ⟨first,spelled,rfl⟩ := Route.descend_eq_some descended
      refine ⟨_,listed,method,?_,rfl⟩
      cases first with
      | param name => cases spelled
      | fixed text => exact Bool.and_eq_true_iff.mpr ⟨spelled,fitting⟩
    · split at found
      · cases found
      · rename_i filled
        obtain ⟨tail,descended,method,fitting,rfl⟩ := ih found
        obtain ⟨route,listed,descended⟩ := List.mem_filterMap.mp descended
        obtain ⟨first,param,rfl⟩ := Route.descend_eq_some descended
        refine ⟨_,listed,method,?_,rfl⟩
        cases first with
        | fixed text => cases param
        | param name => exact Bool.and_eq_true_iff.mpr ⟨Bool.not_eq_true' _ ▸ Bool.eq_false_of_not_eq_true filled,fitting⟩

end Search

/-- The fixed segments at the beginning of a pattern, as they stand in a path. -/
def stem : List Segment → Path
  | [] | .param _ :: _ => []
  | [.fixed text] => text.toList
  | .fixed text :: pattern => text.toList ++ '/' :: stem pattern

theorem fits_stem {pattern : List Segment} {segments : List Path} (fitting : fits pattern segments = true) :
    ∃ rest, ['/'].intercalate segments = stem pattern ++ rest ∧
      ((∀ segment ∈ pattern, segment.isParam = false) → rest = []) := by
  fun_induction fits pattern segments with
  | case1 => exact ⟨[],rfl,fun _ => rfl⟩
  | case2 text pattern segment segments ih =>
    obtain ⟨same,remaining⟩ := Bool.and_eq_true_iff.mp fitting
    cases of_decide_eq_true same
    obtain ⟨rest,spelled,ended⟩ := ih remaining
    refine ⟨rest,?_,fun fixed => ended fun segment inside => fixed segment (List.mem_cons_of_mem _ inside)⟩
    rcases pattern with - | ⟨next,pattern⟩ <;> rcases segments with - | ⟨following,segments⟩
    · rw [List.intercalate_nil] at spelled
      rw [List.intercalate_singleton,stem,List.append_eq_nil_iff.mp spelled.symm |>.2,List.append_nil]
    · cases remaining
    · cases next <;> cases remaining
    · rw [List.intercalate_cons_cons,spelled]
      simp [stem]
  | case3 name pattern segment segments =>
    exact ⟨_,rfl,fun fixed => nomatch fixed (.param name) List.mem_cons_self⟩
  | case4 => cases fitting

/-- A check of the two tables alone: no request that the rule accepts gets to the route,
because of the method, of the whole path or of the path's beginning. -/
def Rule.excludes {Endpoint : Type} (rule : Rule) (route : Route Endpoint) : Bool :=
  let fixed := stem route.pattern
  !rule.allows route.method || !fixed.elem '%' &&
    (route.pattern.all (!Segment.isParam ·) && !rule.accepts route.method fixed ||
      !fixed.isPrefixOf rule.base && !rule.base.isPrefixOf fixed)

theorem Rule.excludes_sound {Endpoint : Type} {rule : Rule} {route : Route Endpoint} {path routed : Path}
    (excluded : rule.excludes route = true) (seen : routed = path ∨ unescape routed = some path)
    (fitting : fits route.pattern (routed.splitOn '/') = true) : rule.accepts route.method path = false := by
  obtain ⟨rest,spelled,ended⟩ := fits_stem fitting
  rw [List.intercalate_splitOn] at spelled
  by_contra accepted
  replace accepted := Bool.eq_true_of_not_eq_false accepted
  simp only [Rule.excludes,Rule.allows_of_accepts accepted,Bool.not_true,Bool.false_or,Bool.and_eq_true,Bool.or_eq_true,
    Bool.not_eq_true',List.elem_eq_mem,decide_eq_false_iff_not] at excluded
  obtain ⟨plain,⟨fixed,rejected⟩ | ⟨shorter,longer⟩⟩ := excluded
  · rw [ended fun segment inside => by simpa using List.all_eq_true.mp fixed segment inside,List.append_nil] at spelled
    have same : path = stem route.pattern := by
      rcases seen with rfl | unescaped
      · exact spelled
      · rw [spelled,unescape_plain plain] at unescaped
        exact (Option.some.inj unescaped).symm
    cases (same ▸ accepted).symm.trans rejected
  · have begins : stem route.pattern <+: path := by
      have sent : stem route.pattern <+: routed := ⟨rest,spelled.symm⟩
      rcases seen with rfl | unescaped
      · exact sent
      · exact unescape_begins plain sent unescaped
    rcases List.prefix_or_prefix_of_prefix begins (rule.base_begins accepted) with within | within
    · cases (List.isPrefixOf_iff_prefix.mpr within).symm.trans shorter
    · cases (List.isPrefixOf_iff_prefix.mpr within).symm.trans longer

/-- A check of a rule alone: it accepts no path that begins like this. -/
def Rule.bars (fixed : Path) : Rule → Bool
  | .pathPrefix other => !other.toList.isPrefixOf fixed && !fixed.isPrefixOf other.toList
  | .path whole => !fixed.isPrefixOf whole.toList
  | .method _ => false
  | .and left right => left.bars fixed || right.bars fixed
  | .not (.pathPrefix other) => other.toList.isPrefixOf fixed
  | .not _ => false

theorem Rule.bars_sound {rule : Rule} {fixed path : Path} {method : Method} (barred : rule.bars fixed = true)
    (begins : fixed <+: path) : rule.accepts method path = false := by
  fun_induction Rule.bars fixed rule with
  | case1 other =>
    rw [Bool.and_eq_true,Bool.not_eq_true',Bool.not_eq_true'] at barred
    by_contra accepted
    have also : other.toList <+: path := List.isPrefixOf_iff_prefix.mp (Bool.eq_true_of_not_eq_false accepted)
    rcases List.prefix_or_prefix_of_prefix also begins with within | within
    · cases (List.isPrefixOf_iff_prefix.mpr within).symm.trans barred.1
    · cases (List.isPrefixOf_iff_prefix.mpr within).symm.trans barred.2
  | case2 whole =>
    refine decide_eq_false fun same => ?_
    rw [← same] at begins
    simp [List.isPrefixOf_iff_prefix.mpr begins] at barred
  | case3 => cases barred
  | case4 left right first second =>
    rw [Bool.or_eq_true] at barred
    rw [accepts,Bool.and_eq_false_iff]
    exact barred.imp first second
  | case5 other =>
    have within : other.toList <+: path := (List.isPrefixOf_iff_prefix.mp barred).trans begins
    simp [accepts,List.isPrefixOf_iff_prefix.mpr within]
  | case6 => cases barred

end Ticketbus.Http
