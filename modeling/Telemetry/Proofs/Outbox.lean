import Mathlib.Data.List.Pairwise
import Telemetry.Outbox

/-!
# The life of an entry in the outbox

Ids may repeat, so an entry is followed by its ticket, its place among the accepted entries. A `Ledger` is an
outbox with the tickets of what waits in it, and a record of what was accepted, what was tried and what has
left. The ledger does with the outbox what is asked, and books the answers.

One try of the entry at the front is an `attempt`, and a drain is a sequence of them. `Lawful` says what a
ledger from a run looks like, and each attempt, push and clearing keeps it.
-/

namespace Telemetry.Outbox

/-- What is asked of an outbox. -/
inductive Op
  | push (id : UInt32) (topic : String) (payload : List UInt8)
  /-- A drain whose attempts are answered as given. -/
  | drain (answers : List Bool)
  | clear

/-- An attempt to send: whose, the entry as it was handed over, and the answer. -/
structure Try where
  ticket : Nat
  entry : Entry
  accepted : Bool
  deriving DecidableEq, Repr

/-- How an entry leaves: by the outcome of an attempt, or because everything is thrown away. -/
inductive Exit
  | settled (outcome : Outcome)
  | cleared
  deriving DecidableEq, Repr

structure Ledger where
  outbox : Outbox := .empty
  /-- The tickets of what waits, in the order of the entries. -/
  tickets : List Nat := []
  /-- All that were accepted, in their order; the ticket of an entry is its place here. -/
  accepted : List Entry := []
  tries : List Try := []
  exits : List (Nat × Exit) := []
  deriving DecidableEq, Repr

/-- Does the entry with this outcome stay in the outbox? -/
def Outcome.stays : Outcome → Bool
  | requeued _ _ => true
  | delivered _ | dropped _ => false

/-- The entry after so many failures. -/
def Entry.failed (k : Nat) (e : Entry) : Entry := { e with retries := k }

@[simp] theorem Entry.retries_failed (k : Nat) (e : Entry) : (e.failed k).retries = k := rfl

@[simp] theorem Entry.id_failed (k : Nat) (e : Entry) : (e.failed k).id = e.id := rfl

@[simp] theorem Entry.failed_failed (j k : Nat) (e : Entry) : (e.failed j).failed k = e.failed k := rfl

/-- The first `k` attempts to send an entry, all of which failed. -/
def failures (e : Entry) (k : Nat) : List (Entry × Bool) :=
  (List.range k).map fun i => (e.failed i, false)

/-- What has become of an accepted entry: the attempts to send it, how it left, and how often it waits. -/
inductive Life (e : Entry) : List (Entry × Bool) → List Exit → Nat → Prop
  | waits {k : Nat} (h : k < maxRetries) : Life e (failures e k) [] 1
  | delivered {k : Nat} (h : k < maxRetries) :
    Life e (failures e k ++ [(e.failed k, true)]) [.settled (.delivered e.id)] 0
  | dropped : Life e (failures e maxRetries) [.settled (.dropped e.id)] 0
  | cleared {k : Nat} (h : k < maxRetries) : Life e (failures e k) [.cleared] 0

namespace Ledger

/-- Books the attempts to send these entries. An attempt without an answer counts as accepted. -/
def book : List Nat → List Entry → List Bool → List Try
  | t :: tickets, e :: entries, answers =>
    ⟨t, e, answers.headD true⟩ :: book tickets entries answers.tail
  | _, _, _ => []

/-- Those of the tickets whose entries stay. -/
def staying (tickets : List Nat) (outcomes : List Outcome) : List Nat :=
  ((tickets.zip outcomes).filter (·.2.stays)).map (·.1)

/-- Those of the tickets whose entries leave, with the outcome. -/
def leaving (tickets : List Nat) (outcomes : List Outcome) : List (Nat × Exit) :=
  ((tickets.zip outcomes).filter (!·.2.stays)).map fun s => (s.1, .settled s.2)

def perform (op : Op) (l : Ledger) : Ledger :=
  match op with
  | .push id topic payload =>
    match l.outbox.push { id, topic, payload } with
    | .ok outbox =>
      { l with
        outbox
        tickets := l.tickets ++ [l.accepted.length]
        accepted := l.accepted ++ [{ id, topic, payload }] }
    | .error _ => l
  | .drain answers =>
    let r := l.outbox.drain answers
    let tried := l.tickets.take drainBudget
    { l with
      outbox := r.2
      tickets := l.tickets.drop drainBudget ++ staying tried r.1
      tries := l.tries ++ book tried l.outbox.due answers
      exits := l.exits ++ leaving tried r.1 }
  | .clear =>
    { l with
      outbox := .empty
      tickets := []
      exits := l.exits ++ l.tickets.map fun t => (t, .cleared) }

def run (ops : List Op) (l : Ledger) : Ledger := ops.foldl (fun l op => l.perform op) l

/-- The attempts to send the entry with this ticket. -/
def triesOf (t : Nat) (tries : List Try) : List (Entry × Bool) :=
  (tries.filter (·.ticket = t)).map fun x => (x.entry, x.accepted)

/-- How the entry with this ticket has left. -/
def exitsOf (t : Nat) (exits : List (Nat × Exit)) : List Exit :=
  (exits.filter (·.1 = t)).map (·.2)

/-- The tickets of the attempts to send what had not failed before, in their order. -/
def firsts (tries : List Try) : List Nat := (tries.filter (·.entry.retries = 0)).map (·.ticket)

/-- The tickets of what waits and was never tried. -/
def fresh (held : List (Nat × Entry)) : List Nat :=
  (held.filter (·.2.retries = 0)).map (·.1)

variable {l : Ledger} {held : List (Nat × Entry)}

/-! ## Attempts -/

end Ledger

/-- What an attempt that is answered so makes of an entry. -/
def outcome (e : Entry) (answer : Bool) : Outcome :=
  if answer then .delivered e.id
  else if maxRetries ≤ e.retries + 1 then .dropped e.id
  else .requeued e.id (e.retries + 1)

theorem push_eq_ok_iff {e : Entry} {q q' : Outbox} :
    q.push e = .ok q' ↔ q.size < capacity ∧ q' = ⟨q.entries ++ [e]⟩ := by
  unfold push isFull
  by_cases room : q.size < capacity
  · simp [room, Nat.not_le.2 room, eq_comm]
  · simp [room, Nat.not_lt.1 room]

theorem settle_cons (e : Entry) (rest : List Entry) (answers : List Bool) :
    settle (e :: rest) answers =
      (outcome e (answers.headD true) :: (settle rest answers.tail).1,
        (if (outcome e (answers.headD true)).stays then [e.failed (e.retries + 1)] else []) ++
          (settle rest answers.tail).2) := by
  rw [settle, outcome]
  split
  · rfl
  · split <;> rfl

/-- As many answers as there are attempts. -/
def answered : Nat → List Bool → List Bool
  | 0, _ => []
  | n + 1, answers => answers.headD true :: answered n answers.tail

namespace Ledger

/-- The entry at the front is tried, and goes to the back if it stays. -/
def attempt (l : Ledger) (answer : Bool) : Ledger :=
  match l.tickets, l.outbox.entries with
  | t :: tickets, e :: entries =>
    let o := outcome e answer
    { l with
      outbox := ⟨entries ++ if o.stays then [e.failed (e.retries + 1)] else []⟩
      tickets := tickets ++ if o.stays then [t] else []
      tries := l.tries ++ [⟨t, e, answer⟩]
      exits := l.exits ++ if o.stays then [] else [(t, .settled o)] }
  | _, _ => l

theorem staying_cons (t : Nat) (tickets : List Nat) (o : Outcome) (outcomes : List Outcome) :
    staying (t :: tickets) (o :: outcomes) =
      (if o.stays then [t] else []) ++ staying tickets outcomes := by
  cases h : o.stays <;> simp [staying, h]

theorem leaving_cons (t : Nat) (tickets : List Nat) (o : Outcome) (outcomes : List Outcome) :
    leaving (t :: tickets) (o :: outcomes) =
      (if o.stays then [] else [(t, .settled o)]) ++ leaving tickets outcomes := by
  cases h : o.stays <;> simp [leaving, h]

/-- Attempts on the entries at the front, one each, settle them. Those that stay go behind the others, so none
is tried twice. -/
theorem foldl_attempt (tried : List Entry) (tickets others : List Nat) (rest : List Entry)
    (answers : List Bool) (l : Ledger) (parallel : tickets.length = tried.length)
    (entries : l.outbox.entries = tried ++ rest) (ticketed : l.tickets = tickets ++ others) :
    (answered tried.length answers).foldl attempt l =
      { l with
        outbox := ⟨rest ++ (settle tried answers).2⟩
        tickets := others ++ staying tickets (settle tried answers).1
        tries := l.tries ++ book tickets tried answers
        exits := l.exits ++ leaving tickets (settle tried answers).1 } := by
  induction tried generalizing tickets others rest answers l with
  | nil =>
    obtain rfl := List.length_eq_zero_iff.1 parallel
    obtain ⟨⟨_⟩, _, _, _, _⟩ := l
    simp_all [answered, settle, staying, leaving, book]
  | cons e tried ih =>
    obtain ⟨t, tickets, rfl⟩ := List.exists_cons_of_length_eq_add_one parallel
    have next : l.attempt (answers.headD true) =
        { l with
          outbox := ⟨(tried ++ rest) ++
            if (outcome e (answers.headD true)).stays then [e.failed (e.retries + 1)] else []⟩
          tickets := (tickets ++ others) ++
            if (outcome e (answers.headD true)).stays then [t] else []
          tries := l.tries ++ [⟨t, e, answers.headD true⟩]
          exits := l.exits ++
            if (outcome e (answers.headD true)).stays then []
            else [(t, .settled (outcome e (answers.headD true)))] } := by
      simp [attempt, ticketed, entries]
    rw [List.length_cons, answered, List.foldl_cons, next,
      ih tickets _ _ answers.tail _ (by simpa using parallel) (List.append_assoc ..)
        (List.append_assoc ..)]
    simp [settle_cons, staying_cons, leaving_cons, book, List.append_assoc]

/-- A drain makes one attempt after the other. -/
theorem perform_drain (parallel : l.tickets.length = l.outbox.entries.length) (answers : List Bool) :
    l.perform (.drain answers) = (answered l.outbox.due.length answers).foldl attempt l := by
  have split := foldl_attempt l.outbox.due (l.tickets.take drainBudget) (l.tickets.drop drainBudget)
    (l.outbox.entries.drop drainBudget) answers l (by simp [due, parallel]) (by simp [due]) (by simp)
  rw [split]
  rfl

/-! ## What every run keeps -/

@[simp] theorem triesOf_append (t : Nat) (x y : List Try) :
    triesOf t (x ++ y) = triesOf t x ++ triesOf t y := by
  simp [triesOf]

@[simp] theorem exitsOf_append (t : Nat) (x y : List (Nat × Exit)) :
    exitsOf t (x ++ y) = exitsOf t x ++ exitsOf t y := by
  simp [exitsOf]

theorem exitsOf_cleared (t : Nat) (tickets : List Nat) :
    exitsOf t (tickets.map fun t => (t, .cleared)) = List.replicate (tickets.count t) .cleared := by
  induction tickets with
  | nil => rfl
  | cons u tickets ih =>
    rw [exitsOf] at ih
    by_cases h : u = t <;> simp [exitsOf, ih, h, List.replicate_succ]

@[simp] theorem length_failures (e : Entry) (k : Nat) : (failures e k).length = k := by
  simp [failures]

theorem failures_succ (e : Entry) (k : Nat) :
    failures e (k + 1) = failures e k ++ [(e.failed k, false)] := by
  simp [failures, List.range_succ]

/-- A ledger whose outbox holds these entries under their tickets. -/
structure Lawful (l : Ledger) (held : List (Nat × Entry)) : Prop where
  tickets : l.tickets = held.map (·.1)
  entries : l.outbox.entries = held.map (·.2)
  size : held.length ≤ capacity
  /-- What waits is what was accepted, and has failed as often as it was tried. -/
  waiting : ∀ x ∈ held, ∃ e,
    l.accepted[x.1]? = some e ∧ x.2 = e.failed (triesOf x.1 l.tries).length
  lives : ∀ t e, l.accepted[t]? = some e →
    e.retries = 0 ∧ Life e (triesOf t l.tries) (exitsOf t l.exits) (l.tickets.count t)
  unused : ∀ t, l.accepted.length ≤ t → triesOf t l.tries = [] ∧ exitsOf t l.exits = []
  /-- What was never tried stands in the order of the tickets, and behind all that was tried. -/
  ordered : (firsts l.tries ++ fresh held).Pairwise (· < ·)

theorem lawful_empty : Lawful {} [] := by
  constructor <;> simp [Outbox.empty, firsts, fresh, triesOf, exitsOf]

theorem Lawful.length_tickets (h : Lawful l held) : l.tickets.length = l.outbox.entries.length := by
  simp [h.tickets, h.entries]

theorem Lawful.outbox_size (h : Lawful l held) : l.outbox.size = held.length := by
  simp [Outbox.size, h.entries]

theorem Lawful.lt_of_mem (h : Lawful l held) {t : Nat} (ht : t ∈ l.tickets) :
    t < l.accepted.length := by
  obtain ⟨x, hx, rfl⟩ := List.mem_map.1 (h.tickets ▸ ht)
  obtain ⟨e, he, -⟩ := h.waiting x hx
  exact (List.getElem?_eq_some_iff.1 he).1

theorem Lawful.lt_of_mem_firsts (h : Lawful l held) {t : Nat} (ht : t ∈ firsts l.tries) :
    t < l.accepted.length := by
  by_contra beyond
  obtain ⟨x, hx, rfl⟩ := List.mem_map.1 ht
  have none := (h.unused x.ticket (Nat.not_lt.1 beyond)).1
  simp only [triesOf, List.map_eq_nil_iff, List.filter_eq_nil_iff, decide_eq_true_eq] at none
  exact none x (List.mem_filter.1 hx).1 rfl

/-- An entry that is accepted waits with a ticket of its own. -/
theorem Lawful.push (h : Lawful l held) (room : held.length < capacity) (id : UInt32) (topic : String)
    (payload : List UInt8) :
    let e : Entry := { id, topic, payload }
    Lawful
      { l with
        outbox := ⟨l.outbox.entries ++ [e]⟩
        tickets := l.tickets ++ [l.accepted.length]
        accepted := l.accepted ++ [e] }
      (held ++ [(l.accepted.length, e)]) := by
  intro e
  have new : l.accepted.length ∉ l.tickets := fun ht => Nat.lt_irrefl _ (h.lt_of_mem ht)
  obtain ⟨untried, inside⟩ := h.unused l.accepted.length (Nat.le_refl _)
  constructor
  case tickets => simp [h.tickets]
  case entries => simp [h.entries]
  case size => simpa using Nat.succ_le_of_lt room
  case waiting =>
    intro x hx
    obtain hx | hx := List.mem_append.1 hx
    · obtain ⟨d, hd, same⟩ := h.waiting x hx
      exact ⟨d, List.getElem?_append_left (List.getElem?_eq_some_iff.1 hd).1 ▸ hd, same⟩
    · obtain rfl := List.mem_singleton.1 hx
      exact ⟨e, by simp, by simp [untried, Entry.failed, e]⟩
  case lives =>
    intro t d hd
    obtain old | rfl | beyond := Nat.lt_trichotomy t l.accepted.length
    · rw [List.getElem?_append_left old] at hd
      have other : l.accepted.length ≠ t := by omega
      simpa [List.count_append, List.count_singleton, other] using h.lives t d hd
    · obtain rfl : e = d := by simpa using hd
      have once : (l.tickets ++ [l.accepted.length]).count l.accepted.length = 1 := by
        simp [List.count_append, List.count_eq_zero.2 new]
      refine ⟨rfl, ?_⟩
      rw [untried, inside, once]
      exact .waits (k := 0) (by decide)
    · rw [List.getElem?_eq_none (by simpa using Nat.succ_le_of_lt beyond)] at hd
      cases hd
  case unused =>
    intro t ht
    exact h.unused t (by simp at ht; omega)
  case ordered =>
    have last : fresh (held ++ [(l.accepted.length, e)]) = fresh held ++ [l.accepted.length] := by
      simp [fresh, e]
    rw [last, ← List.append_assoc]
    refine List.pairwise_append.2 ⟨h.ordered, List.pairwise_singleton _ _, ?_⟩
    intro t ht n hn
    obtain rfl := List.mem_singleton.1 hn
    obtain tried | waits := List.mem_append.1 ht
    · exact h.lt_of_mem_firsts tried
    · obtain ⟨x, hx, rfl⟩ := List.mem_map.1 waits
      exact h.lt_of_mem (h.tickets ▸ List.mem_map_of_mem (List.mem_filter.1 hx).1)

/-- All that waits leaves at once. -/
theorem Lawful.clear (h : Lawful l held) : Lawful (l.perform .clear) [] := by
  constructor
  case tickets => rfl
  case entries => rfl
  case size => exact Nat.zero_le _
  case waiting => simp
  case lives =>
    intro t e he
    obtain ⟨fresh, life⟩ := h.lives t e he
    refine ⟨fresh, ?_⟩
    show Life e (triesOf t l.tries) (exitsOf t (l.exits ++ _)) 0
    rw [exitsOf_append, exitsOf_cleared]
    generalize triesOf t l.tries = tries, exitsOf t l.exits = exits, l.tickets.count t = places at life
    cases life with
    | waits h => exact .cleared h
    | delivered h => exact .delivered h
    | dropped => exact .dropped
    | cleared h => exact .cleared h
  case unused =>
    intro t ht
    obtain ⟨untried, inside⟩ := h.unused t ht
    have none : l.tickets.count t = 0 :=
      List.count_eq_zero.2 fun mem => absurd (h.lt_of_mem mem) (Nat.not_lt.2 ht)
    refine ⟨untried, ?_⟩
    show exitsOf t (l.exits ++ _) = []
    rw [exitsOf_append, exitsOf_cleared, inside, none]
    rfl
  case ordered =>
    show (firsts l.tries ++ fresh []).Pairwise (· < ·)
    simpa [fresh] using (List.pairwise_append.1 h.ordered).1

/-- The entry at the front has been accepted once, has failed each time it was tried, and waits once. -/
theorem Lawful.front {t : Nat} {e : Entry} {rest : List (Nat × Entry)}
    (h : Lawful l ((t, e) :: rest)) :
    ∃ d k, l.accepted[t]? = some d ∧ d.retries = 0 ∧ k < maxRetries ∧ e = d.failed k ∧
      triesOf t l.tries = failures d k ∧ exitsOf t l.exits = [] ∧ t ∉ rest.map (·.1) := by
  obtain ⟨d, found, same⟩ := h.waiting (t, e) List.mem_cons_self
  obtain ⟨new, life⟩ := h.lives t d found
  have places : l.tickets.count t = (rest.map (·.1)).count t + 1 := by simp [h.tickets]
  rw [places] at life
  generalize ht : triesOf t l.tries = tries, hx : exitsOf t l.exits = exits,
    hp : (rest.map (·.1)).count t + 1 = n at life
  cases life with
  | @waits k few =>
    have once : (rest.map (·.1)).count t = 0 := by omega
    simp only [ht, length_failures] at same
    exact ⟨d, k, found, new, few, same, rfl, rfl, List.count_eq_zero.1 once⟩
  | delivered | dropped | cleared => omega

/-- What an attempt makes of a life. -/
theorem life_attempt {d : Entry} {k : Nat} (h : k < maxRetries) (answer : Bool) :
    let o := outcome (d.failed k) answer
    Life d (failures d k ++ [(d.failed k, answer)]) (if o.stays then [] else [.settled o])
      (if o.stays then 1 else 0) := by
  cases answer with
  | true => exact .delivered h
  | false =>
    rw [← failures_succ]
    by_cases last : maxRetries ≤ k + 1
    · have third : k + 1 = maxRetries := Nat.le_antisymm h last
      rw [third]
      simpa [outcome, Outcome.stays, last] using Life.dropped (e := d)
    · simpa [outcome, Outcome.stays, last] using Life.waits (e := d) (Nat.lt_of_not_le last)

theorem Lawful.attempt {t : Nat} {e : Entry} {rest : List (Nat × Entry)}
    (h : Lawful l ((t, e) :: rest)) (answer : Bool) :
    Lawful (l.attempt answer)
      (rest ++ if (outcome e answer).stays then [(t, e.failed (e.retries + 1))] else []) := by
  obtain ⟨d, k, found, new, few, rfl, tried, inside, once⟩ := h.front
  have next : l.attempt answer =
      { l with
        outbox := ⟨rest.map (·.2) ++
          if (outcome (d.failed k) answer).stays then [d.failed (k + 1)] else []⟩
        tickets := rest.map (·.1) ++ if (outcome (d.failed k) answer).stays then [t] else []
        tries := l.tries ++ [⟨t, d.failed k, answer⟩]
        exits := l.exits ++
          if (outcome (d.failed k) answer).stays then [] else [(t, .settled (outcome (d.failed k) answer))] } := by
    simp only [Ledger.attempt, h.tickets, h.entries, List.map_cons]
    rfl
  have life := life_attempt (d := d) few answer
  rw [next, Entry.failed_failed, Entry.retries_failed]
  generalize outcome (d.failed k) answer = o at life ⊢
  have others : ∀ u, u ≠ t → triesOf u [⟨t, d.failed k, answer⟩] = [] ∧
      exitsOf u (if o.stays then [] else [(t, .settled o)]) = [] ∧
        (if o.stays then [t] else []).count u = 0 := by
    intro u other
    cases o.stays <;> simp [triesOf, exitsOf, Ne.symm other]
  constructor
  case tickets => cases o.stays <;> simp
  case entries => cases o.stays <;> simp [Entry.failed]
  case size =>
    have := h.size
    cases o.stays <;> simp at this ⊢ <;> omega
  case waiting =>
    intro x hx
    obtain hx | hx := List.mem_append.1 hx
    · have other : x.1 ≠ t := fun same => once (same ▸ List.mem_map_of_mem hx)
      obtain ⟨e, he, same⟩ := h.waiting x (List.mem_cons_of_mem _ hx)
      exact ⟨e, he, by rw [triesOf_append, (others _ other).1, List.append_nil]; exact same⟩
    · cases stays : o.stays with
      | false => simp [stays] at hx
      | true =>
        obtain rfl : x = (t, d.failed (k + 1)) := by simpa [stays] using hx
        refine ⟨d, found, ?_⟩
        rw [triesOf_append, tried]
        simp [triesOf]
  case lives =>
    intro u c hc
    by_cases same : u = t
    · subst same
      obtain rfl : d = c := by simpa [found] using hc
      refine ⟨new, ?_⟩
      have left : exitsOf u (if o.stays then [] else [(u, .settled o)]) =
          if o.stays then [] else [.settled o] := by
        cases o.stays <;> simp [exitsOf]
      have places : (rest.map (·.1) ++ if o.stays then [u] else []).count u =
          if o.stays then 1 else 0 := by
        rw [List.count_append, List.count_eq_zero.2 once]
        cases o.stays <;> simp
      rw [triesOf_append, exitsOf_append, tried, inside, left, places]
      simpa [triesOf] using life
    · obtain ⟨tries, exits, places⟩ := others u same
      have before := h.lives u c hc
      rw [h.tickets, List.map_cons, List.count_cons_of_ne (Ne.symm same)] at before
      rwa [triesOf_append, exitsOf_append, List.count_append, tries, exits, places, List.append_nil,
        List.append_nil, Nat.add_zero]
  case unused =>
    intro u hu
    have other : u ≠ t := by
      rintro rfl
      exact absurd (List.getElem?_eq_some_iff.1 found).1 (Nat.not_lt.2 hu)
    obtain ⟨tries, exits, -⟩ := others u other
    rw [triesOf_append, exitsOf_append, tries, exits, List.append_nil, List.append_nil]
    exact h.unused u hu
  case ordered =>
    have back : fresh (if o.stays then [(t, d.failed (k + 1))] else []) = [] := by
      cases o.stays <;> simp [fresh, Entry.failed]
    -- The first attempt moves the ticket from the head of those never tried to the end of those tried.
    have same : firsts (l.tries ++ [⟨t, d.failed k, answer⟩]) ++ fresh rest =
        firsts l.tries ++ fresh ((t, d.failed k) :: rest) := by
      by_cases first : k = 0 <;> simp [firsts, fresh, Entry.failed, first]
    have split : fresh (rest ++ if o.stays then [(t, d.failed (k + 1))] else []) = fresh rest := by
      rw [fresh, List.filter_append, List.map_append]
      exact (congrArg _ back).trans (List.append_nil _)
    show (firsts (l.tries ++ _) ++ fresh (rest ++ if o.stays then [(t, d.failed (k + 1))] else [])).Pairwise _
    rw [split, same]
    exact h.ordered

theorem Lawful.attempts (h : Lawful l held) (answers : List Bool) :
    ∃ held, Lawful (answers.foldl Ledger.attempt l) held := by
  induction answers generalizing l held with
  | nil => exact ⟨held, h⟩
  | cons answer answers ih =>
    cases held with
    | nil =>
      have nothing : l.attempt answer = l := by simp [Ledger.attempt, h.tickets]
      rw [List.foldl_cons, nothing]
      exact ih h
    | cons x rest => exact ih (h.attempt answer)

theorem Lawful.perform_push (h : Lawful l held) (id : UInt32) (topic : String) (payload : List UInt8) :
    l.perform (.push id topic payload) =
      if held.length < capacity then
        { l with
          outbox := ⟨l.outbox.entries ++ [{ id, topic, payload }]⟩
          tickets := l.tickets ++ [l.accepted.length]
          accepted := l.accepted ++ [{ id, topic, payload }] }
      else l := by
  rw [← h.outbox_size, Ledger.perform]
  split
  · next pushed =>
    obtain ⟨room, rfl⟩ := push_eq_ok_iff.1 pushed
    rw [if_pos room]
  · next refused =>
    rw [if_neg fun room => ?_]
    cases refused.symm.trans (push_eq_ok_iff.2 ⟨room, rfl⟩)

theorem Lawful.perform (h : Lawful l held) (op : Op) : ∃ held, Lawful (l.perform op) held := by
  cases op with
  | push id topic payload =>
    rw [h.perform_push]
    split
    · next room => exact ⟨_, h.push room id topic payload⟩
    · exact ⟨held, h⟩
  | drain answers =>
    rw [perform_drain h.length_tickets]
    exact h.attempts _
  | clear => exact ⟨[], h.clear⟩

theorem Lawful.run (h : Lawful l held) (ops : List Op) : ∃ held, Lawful (l.run ops) held := by
  induction ops generalizing l held with
  | nil => exact ⟨held, h⟩
  | cons op ops ih =>
    obtain ⟨held', h'⟩ := h.perform op
    exact ih h'

/-! ## The contract -/

end Ledger

/-- No entry is tried more often than it may fail. -/
theorem Life.length_le {e : Entry} {tries : List (Entry × Bool)} {exits : List Exit} {places : Nat}
    (h : Life e tries exits places) : tries.length ≤ maxRetries := by
  cases h <;> simp <;> omega

/-- An attempt finds the entry with as many failures as there were attempts before it. -/
theorem Life.eq_failed {e : Entry} {tries : List (Entry × Bool)} {exits : List Exit} {places : Nat}
    (h : Life e tries exits places) {i : Nat} {x : Entry × Bool} (hx : tries[i]? = some x) :
    x.1 = e.failed i := by
  have failed : ∀ {k}, (failures e k)[i]? = some x → x.1 = e.failed i := by
    intro k hk
    obtain ⟨inside, rfl⟩ := List.getElem?_eq_some_iff.1 hk
    simp [failures]
  cases h with
  | waits | cleared | dropped => exact failed hx
  | @delivered k =>
    rw [List.getElem?_append] at hx
    split at hx
    · exact failed hx
    · next beyond =>
      obtain ⟨last, rfl⟩ := List.getElem?_eq_some_iff.1 hx
      obtain rfl : i = k := by simp at beyond last; omega
      simp

namespace Ledger

/-- The first attempt with a ticket finds an entry that has not failed. -/
theorem Lawful.retries_of_first (h : Lawful l held) {past later : List Try} {x : Try}
    (split : l.tries = past ++ x :: later) (new : x.ticket ∉ past.map (·.ticket)) :
    x.entry.retries = 0 := by
  have tries : triesOf x.ticket l.tries =
      (x.entry, x.accepted) :: triesOf x.ticket later := by
    have none : triesOf x.ticket past = [] := by
      simpa [triesOf] using new
    rw [split, triesOf_append, none]
    simp [triesOf]
  cases found : l.accepted[x.ticket]? with
  | none =>
    have untried := (h.unused _ (List.getElem?_eq_none_iff.1 found)).1
    rw [tries] at untried
    cases untried
  | some e =>
    have life := (h.lives _ e found).2
    rw [tries] at life
    exact congrArg Entry.retries (life.eq_failed (i := 0) rfl)

/-- Whoever was tried before the first attempt with a ticket was accepted before. -/
theorem Lawful.lt_of_first (h : Lawful l held) {past later : List Try} {x y : Try}
    (split : l.tries = past ++ x :: later) (new : x.ticket ∉ past.map (·.ticket)) (hy : y ∈ past) :
    y.ticket < x.ticket := by
  obtain ⟨before, after, cut, unseen⟩ := List.eq_append_cons_of_mem (List.mem_map_of_mem (f := (·.ticket)) hy)
  obtain ⟨past₁, rest, rfl, rfl, cut'⟩ := List.map_eq_append_iff.1 cut
  obtain ⟨z, past₂, rfl, same, rfl⟩ := List.map_eq_cons_iff.1 cut'
  have split' : l.tries = past₁ ++ z :: (past₂ ++ x :: later) := by simpa using split
  have first : z.entry.retries = 0 := h.retries_of_first split' (same ▸ unseen)
  have mem : y.ticket ∈ firsts (past₁ ++ z :: past₂) := by
    rw [← same]
    exact List.mem_map_of_mem (List.mem_filter.2 ⟨by simp, by simpa using first⟩)
  have ordered := (List.pairwise_append.1 h.ordered).1
  have firsts_split : firsts l.tries = firsts (past₁ ++ z :: past₂) ++ x.ticket :: firsts later := by
    rw [split]
    simp only [firsts, List.filter_append, List.filter_cons, h.retries_of_first split new, List.map_append]
    rfl
  rw [firsts_split] at ordered
  exact (List.pairwise_append.1 ordered).2.2 _ mem _ List.mem_cons_self

/-- In every run the outbox is within its capacity, and refuses an entry exactly when it is full. What waits
is what was accepted, with its failures counted. Every accepted entry is tried at most three times, and
lives the life of an entry: it is handed over unchanged but for the count of its failures, until it is
delivered, has failed three times or is cleared, and leaves once. First attempts come in the order of
acceptance. -/
theorem run_lawful (ops : List Op) :
    let l := Ledger.run ops {}
    l.outbox.size ≤ 10 ∧
    (∀ id topic payload,
      ((∃ f, l.outbox.push { id, topic, payload } = .error f) ↔ l.outbox.size = 10) ∧
        (l.outbox.size = 10 → l.perform (.push id topic payload) = l)) ∧
    (l.outbox.entries.map some =
      l.tickets.map fun t => l.accepted[t]?.map (Entry.failed (triesOf t l.tries).length)) ∧
    (∀ t e, l.accepted[t]? = some e → e.retries = 0 ∧ (triesOf t l.tries).length ≤ 3 ∧
      Life e (triesOf t l.tries) (exitsOf t l.exits) (l.tickets.count t)) ∧
    ∀ past x later, l.tries = past ++ x :: later → x.ticket ∉ past.map (·.ticket) →
      x.ticket < l.accepted.length ∧ ∀ y ∈ past, y.ticket < x.ticket := by
  intro l
  obtain ⟨held, h⟩ : ∃ held, Lawful l held := lawful_empty.run ops
  have size := h.outbox_size
  have small : l.outbox.size ≤ capacity := size ▸ h.size
  refine ⟨small, fun id topic payload => ⟨?_, fun full => ?_⟩, ?_, fun t e found => ?_, ?_⟩
  · constructor
    · rintro ⟨f, refused⟩
      refine Nat.le_antisymm small (Nat.not_lt.1 fun room => ?_)
      cases refused.symm.trans (push_eq_ok_iff.2 ⟨room, rfl⟩)
    · exact fun full => ⟨_, push_eq_error_iff.2 (Nat.le_of_eq full.symm)⟩
  · have filled : ¬ held.length < capacity := Nat.not_lt.2 (Nat.le_of_eq (full.symm.trans size))
    rw [h.perform_push, if_neg filled]
  · rw [h.entries, h.tickets, List.map_map, List.map_map]
    refine List.map_congr_left fun x hx => ?_
    obtain ⟨e, found, same⟩ := h.waiting x hx
    simp [found, same]
  · obtain ⟨new, life⟩ := h.lives t e found
    exact ⟨new, life.length_le, life⟩
  · intro past x later split new
    refine ⟨?_, fun y hy => h.lt_of_first split new hy⟩
    refine h.lt_of_mem_firsts ?_
    rw [split]
    simp [firsts, h.retries_of_first split new]

end Ledger
end Telemetry.Outbox
