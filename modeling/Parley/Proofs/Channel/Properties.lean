/-
The properties of the demonstration agent.

Messages are answered one after the other (`Dispatcher.answerAll`). Seen through
its lookups, the table that the agent keeps is a map: what it holds after any
messages are the properties that it started with, overwritten in order by the
ones that were asked to be set under a key that is not empty (`Demo.held`). The
answers tell no more and no less of it (`Demo.answers_follow_map`), and nothing
else changes it.
-/
import Mathlib.Logic.Function.Basic
import Parley.Channel.Demo
import Parley.Proofs.Message.RoundTrip

namespace Parley

/-! ### Tables as maps -/

/-- A map overwritten with values under keys, one after the other. -/
def overwritten (held : String → Option String) (pairs : List (String × String)) :
    String → Option String :=
  pairs.foldl (fun held p => Function.update held p.1 (some p.2)) held

theorem overwritten_append (held : String → Option String) (pairs more : List (String × String)) :
    overwritten held (pairs ++ more) = overwritten (overwritten held pairs) more :=
  List.foldl_append

theorem lookup_pair_cons (p : String × String) (rest : List (String × String)) (k : String) :
    (p :: rest).lookup k = if k = p.1 then some p.2 else rest.lookup k := by
  rw [List.lookup_cons]
  by_cases hk : k = p.1
  · simp [hk]
  · simp [hk, beq_false_of_ne hk]

theorem lookup_setPair (key value : String) (pairs : List (String × String)) (k : String) :
    (setPair key value pairs).lookup k = if k = key then some value else pairs.lookup k := by
  induction pairs with
  | nil => simp [setPair]
  | cons p rest ih =>
      obtain ⟨first, v⟩ := p
      rw [setPair]
      split
      next heq =>
        simp only [lookup_pair_cons, ← heq]
        split <;> rfl
      next hne =>
        split
        next => rw [lookup_pair_cons]
        next =>
          rw [lookup_pair_cons, lookup_pair_cons, ih]
          by_cases hk : k = key
          · simp [hk, hne]
          · simp [hk]

/-- Of pairs in the order of their keys, those are held that are found under their keys. -/
theorem mem_iff_lookup {pairs : List (String × String)} {key value : String}
    (hsorted : pairs.Pairwise fun p q => keyPrecedes p.1 q.1) :
    (key, value) ∈ pairs ↔ pairs.lookup key = some value := by
  induction pairs with
  | nil => simp
  | cons p rest ih =>
      obtain ⟨hfirst, hrest⟩ := List.pairwise_cons.mp hsorted
      obtain ⟨first, v⟩ := p
      rw [List.mem_cons, lookup_pair_cons, Prod.mk.injEq]
      by_cases hkey : key = first
      · subst hkey
        have hnot : (key, value) ∉ rest := by
          intro hmem
          have hself : keyPrecedes key key := hfirst _ hmem
          exact keyPrecedes_asymm hself hself
        simp [hnot, eq_comm]
      · simp [hkey, ih hrest]

namespace PropertyTable

/-- Setting a property overwrites the map. -/
theorem get?_set (t : PropertyTable) (key value : String) :
    (t.set key value).get? = Function.update t.get? key (some value) := by
  funext k
  rw [Function.update_apply]
  exact lookup_setPair key value t.entries k

theorem get?_ofList (pairs : List (String × String)) :
    (ofList pairs).get? = overwritten (fun _ => none) pairs := by
  suffices h : ∀ t : PropertyTable,
      (pairs.foldl (fun t p => t.set p.1 p.2) t).get? = overwritten t.get? pairs from h empty
  induction pairs with
  | nil => exact fun _ => rfl
  | cons p rest ih =>
      intro t
      rw [List.foldl_cons, ih, get?_set]
      rfl

/-- The entries of a table are the keys and values of its map. -/
theorem mem_entries_iff {t : PropertyTable} {key value : String} :
    (key, value) ∈ t.entries ↔ t.get? key = some value :=
  mem_iff_lookup t.sorted

end PropertyTable

/-! ### Messages answered in turn -/

namespace Dispatcher

variable {σ : Type}

/-- Answers messages one after the other, each under a wire type id. Yields the
state of the application behind them, and the answers. -/
def answerAll (d : Dispatcher σ) (app : σ) : List (Int16 × Message) → σ × List Message
  | [] => (app, [])
  | (id, m) :: rest =>
    let (app, reply) := d.answer app id m
    let (app, replies) := d.answerAll app rest
    (app, reply :: replies)

theorem answerAll_cons (d : Dispatcher σ) (app : σ) (call : Int16 × Message)
    (rest : List (Int16 × Message)) :
    d.answerAll app (call :: rest)
      = ((d.answerAll (d.answer app call.1 call.2).1 rest).1,
        (d.answer app call.1 call.2).2 :: (d.answerAll (d.answer app call.1 call.2).1 rest).2) :=
  rfl

theorem answerAll_append (d : Dispatcher σ) (app : σ) (calls more : List (Int16 × Message)) :
    d.answerAll app (calls ++ more)
      = ((d.answerAll (d.answerAll app calls).1 more).1,
        (d.answerAll app calls).2 ++ (d.answerAll (d.answerAll app calls).1 more).2) := by
  induction calls generalizing app with
  | nil => rfl
  | cons call calls ih =>
      rw [List.cons_append, answerAll_cons, ih, answerAll_cons, List.cons_append]

/-- Every message has its answer. -/
theorem length_answerAll (d : Dispatcher σ) (app : σ) (calls : List (Int16 × Message)) :
    (d.answerAll app calls).2.length = calls.length := by
  induction calls generalizing app with
  | nil => rfl
  | cons call calls ih => exact congrArg (· + 1) (ih _)

end Dispatcher

/-! ### The demonstration agent -/

namespace Demo

variable (i : Identity) (store : PropertyTable) (id : Int16)

/-- The property that a message sets: of a request to set one, unless its key is empty. -/
def sets? : Message → Option (String × String)
  | ⟨.request .setProperty, p⟩ => if p.key = "" then none else some (p.key, p.value)
  | _ => none

/-- The properties of the agent as a map, after it answered some messages. -/
def held (calls : List (Int16 × Message)) : String → Option String :=
  overwritten (fun _ => none)
    ([("agent.name", "agentwire"), ("agent.version", i.version), ("os.arch", i.architecture),
      ("os.name", i.system), ("process.id", toString i.processId)]
      ++ calls.filterMap fun call => sets? call.2)

/-- The answers of the agent to some messages, and its properties behind them. -/
def answers (calls : List (Int16 × Message)) : PropertyTable × List Message :=
  (dispatcher i).answerAll (initialProperties i) calls

theorem answer_setProperty (p : SetProperty) :
    (dispatcher i).answer store id (.request .setProperty p)
      = if p.key = "" then (store, .failure id "property key must not be empty")
        else (store.set p.key p.value, .reply .setProperty ()) := by
  change (let (store, handled) := setProperty store p
    (store, Dispatcher.conclude .setProperty id handled)) = _
  unfold setProperty
  by_cases hkey : p.key = ""
  · simp [hkey, Dispatcher.conclude]
  · simp [hkey, Dispatcher.conclude]

/-- **A message changes the table by the property that it sets, or not at all.** -/
theorem fst_answer (m : Message) :
    ((dispatcher i).answer store id m).1
      = ((sets? m).map fun p => store.set p.1 p.2).getD store := by
  obtain ⟨type, payload⟩ := m
  cases type with
  | failure | reply | broadcast => rfl
  | request r =>
      cases r with
      | setProperty =>
          have hanswer := congrArg Prod.fst (answer_setProperty i store id payload)
          refine hanswer.trans ?_
          by_cases hkey : payload.key = ""
          · simp [sets?, hkey]
          · simp [sets?, hkey]
      | _ => rfl

theorem get?_answer (m : Message) :
    ((dispatcher i).answer store id m).1.get? = overwritten store.get? (sets? m).toList := by
  rw [fst_answer]
  cases sets? m with
  | none => rfl
  | some p => exact store.get?_set p.1 p.2

/-- Behind any messages the table is the map that it was, overwritten with what they set. -/
theorem get?_answerAll (calls : List (Int16 × Message)) :
    ((dispatcher i).answerAll store calls).1.get?
      = overwritten store.get? (calls.filterMap fun call => sets? call.2) := by
  induction calls generalizing store with
  | nil => rfl
  | cons call calls ih =>
      have hfirst : (call :: calls).filterMap (fun call => sets? call.2)
          = (sets? call.2).toList ++ calls.filterMap fun call => sets? call.2 := by
        cases hsets : sets? call.2 <;> simp [hsets]
      rw [Dispatcher.answerAll_cons, ih, get?_answer, hfirst, overwritten_append]

theorem get?_initialProperties :
    (initialProperties i).get? = held i [] :=
  PropertyTable.get?_ofList _

/-- What the agent holds is the map. -/
theorem get?_answers (calls : List (Int16 × Message)) :
    (answers i calls).1.get? = held i calls := by
  rw [answers, get?_answerAll, get?_initialProperties, held, held, overwritten_append]
  rfl

/-- **The agent answers as a map would that is overwritten in order.** Of the
answers to any messages, take the one to `m`, which came under `id`. If `m` asks
for the properties, it is a table of exactly those that the agent started with,
overwritten in order by the ones that were set until then. If `m` asks for one to
be set, it says that this was done exactly if the key is not empty, and is
otherwise a failure that names `id`. And unless `m` sets a property the agent
holds the same table after it as before. -/
theorem answers_follow_map (before after : List (Int16 × Message)) (m : Message) :
    ∃ answer, (answers i (before ++ (id, m) :: after)).2[before.length]? = some answer ∧
      (m = .request .getProperties () →
        ∃ table : PropertyTable, answer = .reply .getProperties table ∧
          ∀ key value, (key, value) ∈ table.entries ↔ held i before key = some value) ∧
      (∀ p, m = .request .setProperty p →
        (answer = .reply .setProperty () ↔ p.key ≠ "") ∧
          (p.key = "" → answer = .failure id "property key must not be empty")) ∧
      (sets? m = none → (answers i (before ++ [(id, m)])).1 = (answers i before).1) := by
  have hanswer : (answers i (before ++ (id, m) :: after)).2[before.length]?
      = some ((dispatcher i).answer (answers i before).1 id m).2 := by
    rw [answers, Dispatcher.answerAll_append, Dispatcher.answerAll_cons]
    simp [Dispatcher.length_answerAll, answers]
  refine ⟨_, hanswer, ?_, ?_, ?_⟩
  · rintro rfl
    refine ⟨(answers i before).1, rfl, fun key value => ?_⟩
    rw [PropertyTable.mem_entries_iff, get?_answers]
  · rintro p rfl
    rw [answer_setProperty]
    by_cases hkey : p.key = ""
    · simp [hkey, Message.failure, Message.reply]
    · simp [hkey]
  · intro hsets
    rw [answers, Dispatcher.answerAll_append, Dispatcher.answerAll_cons]
    exact (fst_answer i _ id m).trans (by simp [hsets, answers])

/-- A property that is set twice, with a refused one and another request in
between, is listed with its last value. -/
theorem answers_follow_map_twice :
    let i : Identity := ⟨"0.3.0", "x86_64", "linux", 7, []⟩
    let calls : List (Int16 × Message) :=
      [(102, .request .setProperty ⟨"mode", "debug"⟩), (102, .request .setProperty ⟨"", "x"⟩),
        (100, .request .ping ()), (102, .request .setProperty ⟨"mode", "trace"⟩)]
    ∃ table : PropertyTable,
      (answers i (calls ++ [(101, .request .getProperties ())])).2[4]?
          = some (.reply .getProperties table) ∧
        ("mode", "trace") ∈ table.entries ∧ ("os.name", "linux") ∈ table.entries := by
  intro i calls
  obtain ⟨answer, hanswer, hlists, -, -⟩ :=
    answers_follow_map i 101 calls [] (.request .getProperties ())
  obtain ⟨table, rfl, hentries⟩ := hlists rfl
  refine ⟨table, hanswer, (hentries _ _).mpr ?_, (hentries _ _).mpr ?_⟩
  · decide
  · decide

end Demo

end Parley
