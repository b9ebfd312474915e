import EntitySelection.Proofs.Query.Order
import EntitySelection.Proofs.Query.Registered

/-!
# More requests

A registry that was filled may be filled further. What it has bound it keeps (`Extends`): a token
stays with its comparator, and a comparator keeps its canonical token.

**Theorem (`conservative_fillAll`).** However a registry was filled and is filled further, a text
is read as before unless it starts with a token that is new, and a query for a comparator that was
registered before is written as before (`Conservative`).

New tokens may be longer than all old ones, so that the search for a token begins further out. It
finds nothing new there in a text that starts with no new token, since of what is bound a reading
uses only the tokens that the text starts with (`splitToken_congr`).
-/

namespace EntitySelection

namespace Registry

variable {r s m : Registry} {q : Registration} {t : String}

/-- What a registry has bound, the other one has bound alike. -/
structure Extends (r s : Registry) : Prop where
  lookup : ∀ t c, r.lookup t = some c → s.lookup t = some c
  canonical : ∀ c t, r.canonicalOf? c = some t → s.canonicalOf? c = some t

theorem Extends.refl (r : Registry) : Extends r r where
  lookup _ _ h := h
  canonical _ _ h := h

theorem Extends.register (h : Extends r s) (hm : s.register q = .ok m) : Extends r m where
  lookup t c hl := lookup_register hm (h.lookup t c hl)
  canonical c t hc := canonicalOf?_register hm (h.canonical c t hc)

/-- Requests take nothing away. -/
theorem extends_replay (r : Registry) (log : List Registration) : Extends r (r.replay log) :=
  replay_induction log (Extends.refl r) fun _ _ _ => Extends.register

/-- A token that the smaller registry has is bound alike in both. -/
theorem Extends.lookup_iff (h : Extends r s) (ht : t ∈ r.tokens) (c : Comparator) :
    s.lookup t = some c ↔ r.lookup t = some c := by
  obtain ⟨d, hd⟩ := mem_tokens_iff.1 ht
  rw [hd, h.lookup t d hd]

end Registry

namespace Query

open Text Registry

variable {r s : Registry} {raw : String}

/-- Texts are read, and queries are written, under `s` as under `r`, where only what `r` has counts
for them. -/
structure Conservative (r s : Registry) : Prop where
  parse : ∀ raw,
    (∀ t ∈ s.tokens, t ∉ r.tokens → ¬ t.toList <+: trimStart isBlank raw.toList) →
      parse s raw = parse r raw
  describe : ∀ q : Query, q.comparator ∈ r.comparators →
    ∃ text, q.describe r = .ok text ∧ q.describe s = .ok text

/-- A text that starts with no new token starts with the same tokens. -/
theorem parse_of_extends (h : Extends r s) (hr : Consistent r) (hs : Consistent s)
    (hnew : ∀ t ∈ s.tokens, t ∉ r.tokens → ¬ t.toList <+: trimStart isBlank raw.toList) :
    parse s raw = parse r raw := by
  apply parse_congr
  apply splitToken_congr hs.ne_empty hr.ne_empty
  intro t c hprefix
  by_cases ht : t ∈ r.tokens
  · exact h.lookup_iff ht c
  · -- A token that `r` lacks would be new.
    have hfree : t ∉ s.tokens := fun hmem => hnew t hmem ht hprefix
    rw [mem_tokens_iff, not_exists] at ht hfree
    exact iff_of_false (hfree c) (ht c)

theorem describe_of_extends (h : Extends r s) {q : Query} (hq : q.comparator ∈ r.comparators) :
    ∃ text, q.describe r = .ok text ∧ q.describe s = .ok text := by
  obtain ⟨token, htoken⟩ := Option.isSome_iff_exists.1 (Named.lookup_isSome_iff.2 hq)
  exact ⟨_, describe_eq htoken q.against, describe_eq (h.canonical _ _ htoken) q.against⟩

/-- **Filling a registry further changes nothing for texts without its new tokens**, nor for how
the queries of its old comparators are written. -/
theorem conservative_fillAll (steps more : List Filling) :
    Conservative (empty.fillAll steps) ((empty.fillAll steps).fillAll more) := by
  obtain ⟨log, hlog⟩ := exists_log_fillAll empty steps
  obtain ⟨log', hlog'⟩ := exists_log_fillAll (empty.fillAll steps) more
  rw [hlog', hlog]
  have hr := consistent_replay log
  have hs : Consistent ((empty.replay log).replay log') := by
    rw [← replay_append]
    exact consistent_replay (log ++ log')
  have h := extends_replay (empty.replay log) log'
  constructor
  case parse => exact fun raw hnew => parse_of_extends h hr hs hnew
  case describe => exact fun q hq => describe_of_extends h hq

/-- A text that starts with a new token may be read in another way, here with a longer one. -/
example :
    (parse (empty.replay greaterLog) ">= 3").isOk = false ∧
      (parse ((empty.replay greaterLog).replay orderLog) ">= 3").isOk = true := ⟨rfl, rfl⟩

end Query

end EntitySelection
