/-
# The key of a saved entry

`SPEC_FULL.md` §0, `load_buffers`, where the key of an entry fills a missing `baseUrl`.

A saved entry stands under a key, which is put in for the base URL if the settings of the
entry give none.  Whether they give one is told by the name `baseUrl` alone, while checking
settings takes the base URL from three names:

| the settings of an entry have | the base URL it is loaded with |
| --- | --- |
| `baseUrl` | their own |
| none of the three names | the key |
| `url` or `base_url`, but no `baseUrl` | the key, whatever they say |

So settings that are valid in themselves are loaded as they are just if they have a `baseUrl`,
or say what the key says (`Buffers.load_ownOptions_iff`).  The base URL is all that is ever lost
of them (`Buffers.Takes`).
-/

import Recorder.Proofs.Storage.Buffers

namespace Recorder

namespace Endpoint

variable {fs gs : Fields} {e : Endpoint}

/-- An endpoint that was checked has the base URL that is read first. -/
theorem read_baseUrl_of_check (h : check (.obj fs) = .ok e) :
    fs.read urlNames checkText (.missing "baseUrl") = .ok e.baseUrl := by
  obtain ⟨_, hall, rfl⟩ := Outcome.map_eq_ok.1 h
  exact (Checked.and_eq_ok.1 hall).1

/-- **Settings that differ in the base URL only** give endpoints that differ in it only, as no
other field is read under one of its names. -/
theorem check_of_read_baseUrl (hrest : ∀ key ∉ urlNames, gs.get? key = fs.get? key)
    (h : check (.obj fs) = .ok e) {url : String}
    (hurl : gs.read urlNames checkText (.missing "baseUrl") = .ok url) :
    check (.obj gs) = .ok { e with baseUrl := url } := by
  have hread {α : Type} {names : List String} {check : Json → Checked α} {absent : Checked α}
      (hnames : ∀ key ∈ names, key ∉ urlNames) :
      gs.read names check absent = fs.read names check absent :=
    Fields.read_congr fun key hkey => hrest key (hnames key hkey)
  obtain ⟨_, hall, rfl⟩ := Outcome.map_eq_ok.1 h
  obtain ⟨-, hothers⟩ := Checked.and_eq_ok.1 hall
  refine Outcome.map_eq_ok.2 ⟨(url, _), Checked.and_eq_ok.2 ⟨hurl, ?_⟩, rfl⟩
  rw [hread (by decide), hread (by decide), hread (by decide), hread (by decide),
    hread (by decide), hread (by decide)]
  exact hothers

end Endpoint

namespace Buffers

variable {key : String} {entry given : Fields} {e : Endpoint} {c : SavedConnection}

/-- Settings with the key put in, unless they have a `baseUrl`. -/
def filled (key : String) (given : Fields) : Fields :=
  if given.has "baseUrl" then given else given ++ [("baseUrl", .str key)]

/-- Nothing else changes. -/
theorem get?_filled {name : String} (h : name ≠ "baseUrl") :
    (filled key given).get? name = given.get? name := by
  rw [filled]
  split
  · rfl
  · rw [Entries.get?_append, Entries.get?_cons, if_neg (Ne.symm h), Entries.get?_nil, Option.or_none]

/-- Once it is put in, the key is read first. -/
theorem read_filled (h : given.has "baseUrl" = false) :
    (filled key given).read Endpoint.urlNames Endpoint.checkText (.missing "baseUrl") =
      .ok key := by
  have hget : (filled key given).get? "baseUrl" = some (.str key) := by
    rw [filled, if_neg (by rw [h]; exact Bool.false_ne_true), Entries.get?_append,
      Entries.has_eq_false_iff.1 h, Option.none_or]
    rfl
  exact Fields.read_of_check hget rfl

/-- **Valid settings stay valid** when the key is put in, and only their base URL changes.  It
is put in under the name that is looked at first, which is why it wins over one that was given
under another name. -/
theorem check_filled (hhas : given.has "baseUrl" = false)
    (h : Endpoint.check (.obj given) = .ok e) :
    Endpoint.check (.obj (filled key given)) = .ok { e with baseUrl := key } := by
  refine Endpoint.check_of_read_baseUrl (fun name hname => ?_) h (read_filled hhas)
  exact get?_filled fun heq => hname (heq ▸ List.mem_cons_self)

/-- An entry that is accepted stays accepted when its key is put in for a missing base URL. -/
theorem exists_check_filled (key : String) (h : Endpoint.check (.obj given) = .ok e) :
    ∃ e', Endpoint.check (.obj (filled key given)) = .ok e' := by
  cases hhas : given.has "baseUrl" with
  | true => exact ⟨e, by rwa [filled, if_pos hhas]⟩
  | false => exact ⟨_, check_filled hhas h⟩

/-- **What becomes of the settings of an entry:** whether the base URL is their own or the key
of the entry, and that nothing else of them changes. -/
structure Takes (key : String) (given : Fields) (e : Endpoint) : Prop where
  /-- Settings with a `baseUrl` are taken as they are. -/
  own : given.has "baseUrl" = true → Endpoint.check (.obj given) = .ok e
  /-- The key is the base URL of all others. -/
  key : given.has "baseUrl" = false → e.baseUrl = key
  /-- Of settings that are valid in themselves nothing but the base URL changes. -/
  rest : ∀ valid, Endpoint.check (.obj given) = .ok valid → e = { valid with baseUrl := e.baseUrl }

/-- **Entries are checked** with the key put in, and what they are checked to be tells which
base URL won. -/
theorem takes_of_check (h : Endpoint.check (.obj (filled key given)) = .ok e) :
    Takes key given e := by
  cases hhas : given.has "baseUrl" with
  | true =>
    rw [filled, if_pos hhas] at h
    refine ⟨fun _ => h, fun hno => ?_, fun valid hvalid => ?_⟩
    · rw [hhas] at hno
      cases hno
    · obtain rfl := Except.ok.inj (h.symm.trans hvalid)
      rfl
  | false =>
    have hurl : e.baseUrl = key :=
      Except.ok.inj ((Endpoint.read_baseUrl_of_check h).symm.trans (read_filled hhas))
    refine ⟨fun hyes => ?_, fun _ => hurl, fun valid hvalid => ?_⟩
    · rw [hhas] at hyes
      cases hyes
    · rw [hurl]
      exact Except.ok.inj (h.symm.trans (check_filled hhas hvalid))

/-- Settings that are valid in themselves are taken as they are just if they have a `baseUrl`
or say what the key says. -/
theorem Takes.eq_iff (h : Takes key given e) {valid : Endpoint}
    (hvalid : Endpoint.check (.obj given) = .ok valid) :
    e = valid ↔ given.has "baseUrl" = true ∨ valid.baseUrl = key := by
  cases hhas : given.has "baseUrl" with
  | true => exact iff_of_true (Except.ok.inj ((h.own hhas).symm.trans hvalid)) (.inl rfl)
  | false =>
    rw [or_iff_right Bool.false_ne_true]
    constructor
    · rintro rfl
      exact h.key hhas
    · intro hurl
      rw [h.rest valid hvalid, h.key hhas, ← hurl]

/-- The settings of an entry that are an object. -/
theorem optionsOf_obj (h : entry.get? "options" = some (.obj given)) :
    optionsOf key entry = .ok (filled key given) := by
  have hgiven : Table.ofJson (if (Json.obj given).isTruthy then .obj given else .obj []) =
      .ok (given.map fun p => (.str p.1, p.2)) := by
    cases given <;> rfl
  rw [optionsOf, h]
  simp only [hgiven, Outcome.mapError_ok, Outcome.ok_bind, textFields_fields]
  rfl

/-- **An entry is loaded** just if its settings are valid with the key put in and its messages
can be gone through. -/
theorem loadEntry_eq_ok_iff (h : entry.get? "options" = some (.obj given)) :
    loadEntry key (.obj entry) = .ok c ↔
      Endpoint.check (.obj (filled key given)) = .ok c.endpoint ∧ eventsOf entry = .ok c.events := by
  rw [loadEntry, optionsOf_obj h, Outcome.ok_bind]
  constructor
  · intro hload
    obtain ⟨e, he, hload⟩ := Outcome.bind_eq_ok.1 hload
    obtain ⟨events, hevents, hload⟩ := Outcome.bind_eq_ok.1 hload
    obtain rfl := Except.ok.inj hload
    exact ⟨Outcome.mapError_eq_ok.1 he, hevents⟩
  · rintro ⟨he, hevents⟩
    rw [he, hevents]
    rfl

/-- Entries are loaded just if each of them is. -/
theorem exists_loadEntries_iff {entries : List (String × Json)} :
    (∃ saved, loadEntries entries = .ok saved) ↔ ∀ p ∈ entries, ∃ c, loadEntry p.1 p.2 = .ok c := by
  induction entries with
  | nil => exact iff_of_true ⟨[], rfl⟩ (List.forall_mem_nil _)
  | cons p entries ih =>
    rw [List.forall_mem_cons, ← ih, loadEntries]
    constructor
    · rintro ⟨saved, h⟩
      obtain ⟨c, hc, h⟩ := Outcome.bind_eq_ok.1 h
      obtain ⟨rest, hrest, -⟩ := Outcome.bind_eq_ok.1 h
      exact ⟨⟨c, hc⟩, rest, hrest⟩
    · rintro ⟨⟨c, hc⟩, rest, hrest⟩
      exact ⟨c :: rest, by rw [hc, hrest]; rfl⟩

/-- They are loaded in order. -/
theorem getElem?_loadEntries {entries : List (String × Json)} {saved : List SavedConnection}
    (h : loadEntries entries = .ok saved) :
    saved.length = entries.length ∧ ∀ (i : Nat) (p : String × Json), entries[i]? = some p →
      ∃ c, saved[i]? = some c ∧ loadEntry p.1 p.2 = .ok c := by
  induction entries generalizing saved with
  | nil =>
    obtain rfl := Except.ok.inj h
    exact ⟨rfl, fun i p hp => by cases hp⟩
  | cons p entries ih =>
    obtain ⟨c, hc, h⟩ := Outcome.bind_eq_ok.1 h
    obtain ⟨rest, hrest, h⟩ := Outcome.bind_eq_ok.1 h
    obtain rfl := Except.ok.inj h
    obtain ⟨hlength, hget⟩ := ih hrest
    refine ⟨congrArg Nat.succ hlength, fun i q hq => ?_⟩
    cases i with
    | zero =>
      obtain rfl := Option.some.inj hq
      exact ⟨c, rfl, hc⟩
    | succ i => exact hget i q hq

/-- **When an entry is loaded with the settings it gives.**  A document is loaded just if each
of its entries can be, and an entry whose settings are valid in themselves can be just if its
messages can be gone through.  It is loaded in its place, with its messages and its settings,
of which only the base URL may change; they stay as they are just if they have a `baseUrl` or
say what the key says. -/
theorem load_ownOptions_iff {document connections : Fields}
    (hdocument : document.get? "connections" = some (.obj connections)) :
    ((∃ saved, load (.obj document) = .ok saved) ↔
      ∀ p ∈ connections, ∃ c, loadEntry p.1 p.2 = .ok c) ∧
    ∀ (i : Nat) (key : String) (entry given : Fields), connections[i]? = some (key, .obj entry) →
      entry.get? "options" = some (.obj given) →
      (∀ valid, Endpoint.check (.obj given) = .ok valid →
        ((∃ c, loadEntry key (.obj entry) = .ok c) ↔ ∃ events, eventsOf entry = .ok events)) ∧
      ∀ saved, load (.obj document) = .ok saved →
        saved.length = connections.length ∧ ∃ c, saved[i]? = some c ∧
          eventsOf entry = .ok c.events ∧ Takes key given c.endpoint ∧
          ∀ valid, Endpoint.check (.obj given) = .ok valid →
            (c.endpoint = valid ↔ given.has "baseUrl" = true ∨ valid.baseUrl = key) := by
  have hload : load (.obj document) = loadEntries connections := by
    rw [load, Json.fields?]
    simp only [hdocument, Option.getD_some]
  rw [hload]
  refine ⟨exists_loadEntries_iff, fun i key entry given hi hgiven => ⟨fun valid hvalid => ?_,
    fun saved hsaved => ?_⟩⟩
  · constructor
    · rintro ⟨c, hc⟩
      exact ⟨c.events, ((loadEntry_eq_ok_iff hgiven).1 hc).2⟩
    · rintro ⟨events, hevents⟩
      obtain ⟨e, he⟩ := exists_check_filled key hvalid
      exact ⟨⟨e, events⟩, (loadEntry_eq_ok_iff hgiven).2 ⟨he, hevents⟩⟩
  · obtain ⟨hlength, hget⟩ := getElem?_loadEntries hsaved
    obtain ⟨c, hc, hentry⟩ := hget i _ hi
    obtain ⟨hcheck, hevents⟩ := (loadEntry_eq_ok_iff hgiven).1 hentry
    have htakes := takes_of_check hcheck
    exact ⟨hlength, c, hc, hevents, htakes, fun valid hvalid => htakes.eq_iff hvalid⟩

/-- Settings with a base URL of their own, and settings without one. -/
def ownAndKeyed : Fields :=
  [("http://a", .obj [("options", .obj [("baseUrl", .str "http://b"), ("mode", .str "user32")]),
      ("events", .arr [.null])]),
    ("http://c", .obj [("options", .obj [("mode", .str "coordinate")])])]

/-- The first entry is loaded with its own base URL, the second one with its key. -/
theorem load_ownOptions_keyed :
    Entries.get? [("connections", Json.obj ownAndKeyed)] "connections" = some (.obj ownAndKeyed) ∧
    ∃ first second, load (.obj [("connections", .obj ownAndKeyed)]) = .ok [first, second] ∧
      first.endpoint = { Endpoint.ofUrl "http://b" with mode := .user32 } ∧
      second.endpoint.baseUrl = "http://c" := by
  have hdocument : Entries.get? [("connections", Json.obj ownAndKeyed)] "connections" =
      some (.obj ownAndKeyed) := rfl
  have hload : ∃ first second,
      load (.obj [("connections", .obj ownAndKeyed)]) = .ok [first, second] := ⟨_, _, rfl⟩
  obtain ⟨first, second, hload⟩ := hload
  have hloaded := (load_ownOptions_iff hdocument).2
  obtain ⟨-, c, hfirst, -, hown, -⟩ := (hloaded 0 _ _ _ rfl rfl).2 _ hload
  obtain ⟨-, d, hsecond, -, hkeyed, -⟩ := (hloaded 1 _ _ _ rfl rfl).2 _ hload
  obtain rfl := Option.some.inj hfirst
  obtain rfl := Option.some.inj hsecond
  exact ⟨hdocument, _, _, hload, Except.ok.inj ((hown.own rfl).symm.trans rfl), hkeyed.key rfl⟩

/-- **Settings lose their base URL** if they do not give it as `baseUrl`, although they are valid
in themselves. -/
theorem exists_load_other_baseUrl :
    ∃ (given : Fields) (valid : Endpoint) (c : SavedConnection),
      Endpoint.check (.obj given) = .ok valid ∧ valid.baseUrl = "http://b" ∧
      load (.obj [("connections", .obj [("http://a", .obj [("options", .obj given)])])]) =
        .ok [c] ∧ c.endpoint.baseUrl = "http://a" ∧ c.endpoint ≠ valid := by
  refine ⟨[("url", .str "http://b"), ("mode", .str "user32")],
    { Endpoint.ofUrl "http://b" with mode := .user32 },
    ⟨{ Endpoint.ofUrl "http://a" with mode := .user32 }, []⟩, rfl, rfl, rfl, rfl, fun heq => ?_⟩
  have hurl : "http://a" = "http://b" := congrArg Endpoint.baseUrl heq
  exact absurd hurl (by decide)

end Buffers
end Recorder
