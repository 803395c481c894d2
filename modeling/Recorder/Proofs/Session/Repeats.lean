/-
# Saved entries that share a base URL

`SPEC_FULL.md` §12, `compile`: the entries of a saved recording are replayed into
connections by `ingest`.

A saved recording may have several entries with one base URL, although a session has one
connection for each.  Replaying loses none of them (`Session.replay_complete`):

| of the connection to a base URL | comes from |
| --- | --- |
| its place | the first entry with that base URL |
| its settings | the same, in the mode that was asked for |
| its buffer | all entries with that base URL, in the order of the file |

The connections are opened before any message is taken in, so an entry finds its connection
whichever entries were replayed before it (`Session.connection?_replayed`).
-/

import Recorder.Proofs.Session.Replay
import Recorder.Proofs.Session.Resolution

namespace Recorder

namespace SavedConnection

def url (c : SavedConnection) : String := c.endpoint.baseUrl

/-- The messages of saved connections, each with its base URL. -/
def messages (saved : List SavedConnection) : Messages :=
  saved.flatMap fun c => c.events.map fun m => (c.url, m)

/-- **What entries with one base URL hold:** their events, in the order of the file, from the
first of these entries to the last. -/
def eventsUnder (url : String) (saved : List SavedConnection) : List Event :=
  (saved.filter (·.url == url)).flatMap fun c => c.events.filterMap Event.decode?

/-- Another mode keeps the base URL. -/
@[simp] theorem url_inMode (mode : Option CaptureMode) (c : SavedConnection) :
    (c.inMode mode).url = c.url := by
  cases mode <;> rfl

@[simp] theorem events_inMode (mode : Option CaptureMode) (c : SavedConnection) :
    (c.inMode mode).events = c.events := by
  cases mode <;> rfl

/-- Another mode changes nothing of what entries hold. -/
theorem eventsUnder_inMode (mode : Option CaptureMode) (url : String)
    (saved : List SavedConnection) :
    eventsUnder url (saved.map (inMode mode)) = eventsUnder url saved := by
  simp [eventsUnder, List.filter_map, List.flatMap_map, Function.comp_def]

/-- Settings are found in another mode as they are found without it. -/
theorem find?_endpoint_inMode (mode : Option CaptureMode) (url : String)
    (saved : List SavedConnection) :
    ((saved.map (inMode mode)).map endpoint).find? (·.baseUrl == url) =
      (saved.find? (·.url == url)).map fun c => (c.inMode mode).endpoint := by
  have hshared : ((fun e : Endpoint => e.baseUrl == url) ∘ endpoint ∘ inMode mode) =
      fun c => c.url == url := funext fun c => congrArg (· == url) (url_inMode mode c)
  rw [List.map_map, List.find?_map, hshared]
  rfl

/-- The messages of saved connections, one connection at a time; each message goes to the base
URL that it was saved under. -/
theorem messages_cons (c : SavedConnection) (saved : List SavedConnection) :
    messages (c :: saved) = (c.events.map fun m => (c.url, m)) ++ messages saved :=
  List.flatMap_cons

/-- **A connection keeps what the entries with its base URL hold,** and nothing of the others.
That the entries have other settings makes no difference to it. -/
theorem eventsFor_messages (url : String) (saved : List SavedConnection) :
    (messages saved).eventsFor url = eventsUnder url saved := by
  induction saved with
  | nil => rfl
  | cons c saved ih =>
    rw [messages_cons, Messages.eventsFor_append, ih, Messages.eventsFor, List.filterMap_map]
    by_cases hurl : c.url = url
    · simp [eventsUnder, hurl]
    · simp [eventsUnder, hurl]

end SavedConnection

namespace Connection

/-- **The base URLs of connections** are those of the endpoints, in the order in which they
occur first. -/
theorem urls_ofEndpoints (es : List Endpoint) :
    (ofEndpoints es).map url = (es.map Endpoint.baseUrl).eraseDups := by
  induction es using List.reverseRecOn with
  | nil => rfl
  | append_singleton es e ih =>
    have hseen : e.baseUrl ∈ (ofEndpoints es).map url ↔ e.baseUrl ∈ es.map Endpoint.baseUrl := by
      rw [ih, List.mem_eraseDups]
    rw [ofEndpoints_eq, List.foldl_append, ← ofEndpoints_eq, List.map_append,
      List.eraseDups_append, ← ih]
    by_cases hmem : e.baseUrl ∈ (ofEndpoints es).map url
    · have hany : (ofEndpoints es).any (·.url == e.baseUrl) := by simpa using hmem
      have hnone : List.removeAll [e.baseUrl] (es.map Endpoint.baseUrl) = [] := by
        simpa [List.removeAll] using hseen.1 hmem
      rw [List.foldl_cons, List.foldl_nil, addEndpoint, if_pos hany, List.map_singleton, hnone,
        List.eraseDups_nil, List.append_nil]
    · have hnew : List.removeAll [e.baseUrl] (es.map Endpoint.baseUrl) = [e.baseUrl] := by
        simpa [List.removeAll] using mt hseen.2 hmem
      rw [List.foldl_cons, List.foldl_nil, addEndpoint_of_notMem hmem, List.map_append,
        List.map_singleton, List.map_singleton, hnew]
      rfl

end Connection

namespace Session

variable {s : Session}

/-- The messages of an entry go to the connection with its base URL. -/
theorem replayOne_eq (s : Session) (c : SavedConnection) :
    s.replayOne c = s.ingestAll (c.events.map fun m => (c.url, m)) := by
  rw [ingestAll_eq]
  refine congrArg (fun cs => { s with connections := cs }) (List.map_congr_left fun d _ => ?_)
  by_cases hurl : d.url = c.url
  · have hown : c.endpoint.baseUrl = d.url := hurl.symm
    simp [Messages.eventsFor, hown, SavedConnection.url, Connection.ingestAll_eq]
  · have hother : ¬ d.url = c.endpoint.baseUrl := hurl
    simp [Messages.eventsFor, hother, Ne.symm hurl]

/-- **Replaying entries** takes in all their messages, entry by entry; it is one run of
messages like any other, so what is known of messages holds of a replay. -/
theorem foldl_replayOne_eq (s : Session) (done : List SavedConnection) :
    done.foldl replayOne s = s.ingestAll (SavedConnection.messages done) := by
  induction done generalizing s with
  | nil => rfl
  | cons c done ih =>
    rw [List.foldl_cons, ih, replayOne_eq, SavedConnection.messages_cons, ingestAll_append]

/-- Messages change buffers, so the connections and their order stay. -/
theorem urls_ingestAll (s : Session) (ms : Messages) : (s.ingestAll ms).urls = s.urls := by
  rw [ingestAll_eq, urls, List.map_map]
  rfl

/-- Messages for its base URL put their events at the end of the buffer of a connection, and
change nothing else of it. -/
theorem connection?_ingestAll (s : Session) (ms : Messages) (url : String) :
    (s.ingestAll ms).connection? url = (s.connection? url).map fun c =>
      { c with buffer := c.buffer ++ ms.eventsFor url } := by
  have hkeep : ∀ c : Connection,
      ({ c with buffer := c.buffer ++ ms.eventsFor c.url } : Connection).url = c.url := fun _ => rfl
  rw [ingestAll_eq, connection?, Connection.find?_map hkeep]
  refine Option.map_congr fun c hc => ?_
  rw [Connection.url_of_find? hc]

/-- A session is opened with the first settings of each base URL and with nothing taken in. -/
theorem connection?_ofEndpoints (es : List Endpoint) (manifest : Json) (url : String) :
    ((ofEndpoints es manifest).connection? url).map (fun c => (c.endpoint, c.buffer)) =
      (es.find? (·.baseUrl == url)).map fun e => (e, []) := by
  rw [← Connection.find?_ofEndpoints, ← Connection.map_endpoint_find?, Option.map_map]
  refine Option.map_congr fun c hc => ?_
  have hempty := (Connection.areFresh_ofEndpoints es).buffer c (List.mem_of_find?_eq_some hc)
  exact congrArg (c.endpoint, ·) hempty

/-- The session of saved connections in a mode, once some of them have been replayed. -/
def replayed (mode : Option CaptureMode) (loaded : List SavedConnection) (manifest : Json)
    (done : List SavedConnection) : Session :=
  (done.map (SavedConnection.inMode mode)).foldl replayOne
    (ofEndpoints ((loaded.map (SavedConnection.inMode mode)).map SavedConnection.endpoint) manifest)

/-- It ends as the session of the saved recording. -/
theorem replayed_all (mode : Option CaptureMode) (loaded : List SavedConnection)
    (manifest : Json) :
    replayed mode loaded manifest loaded =
      replay (loaded.map (SavedConnection.inMode mode)) manifest := rfl

/-- **What entries leave in a connection,** after any of them: it has the settings of the first
entry with its base URL, and holds what the entries so far that share it hold. -/
theorem connection?_replayed (mode : Option CaptureMode) (loaded : List SavedConnection)
    (manifest : Json) (done : List SavedConnection) (url : String) :
    ((replayed mode loaded manifest done).connection? url).map (fun c => (c.endpoint, c.buffer)) =
      (loaded.find? (·.url == url)).map fun first =>
        ((first.inMode mode).endpoint, SavedConnection.eventsUnder url done) := by
  have hopened := connection?_ofEndpoints
    ((loaded.map (SavedConnection.inMode mode)).map SavedConnection.endpoint) manifest url
  rw [SavedConnection.find?_endpoint_inMode] at hopened
  rw [replayed, foldl_replayOne_eq, connection?_ingestAll, SavedConnection.eventsFor_messages,
    SavedConnection.eventsUnder_inMode, Option.map_map]
  -- What was there is kept, and what the entries hold comes behind it.
  have hadd := congrArg (Option.map fun p : Endpoint × List Event =>
    (p.1, p.2 ++ SavedConnection.eventsUnder url done)) hopened
  rw [Option.map_map, Option.map_map, Option.map_map] at hadd
  exact hadd

/-- **Replaying drops no saved connection.**  Whatever entries there are, each of them finds a
connection when its turn comes.  In the end there is one connection for each base URL, in the
order in which these occur first.  It has the settings of the first entry with that base URL,
in the mode that was asked for, and holds what all entries with that base URL hold, in the order
of the file. -/
theorem replay_complete (mode : Option CaptureMode) (loaded : List SavedConnection)
    (manifest : Json) :
    (∀ before c after, loaded = before ++ c :: after →
      ∃ d, (replayed mode loaded manifest before).connection? c.url = some d) ∧
    (replay (loaded.map (SavedConnection.inMode mode)) manifest).urls =
      (loaded.map SavedConnection.url).eraseDups ∧
    ∀ url, ((replay (loaded.map (SavedConnection.inMode mode)) manifest).connection? url).map
        (fun d => (d.endpoint, d.buffer)) =
      (loaded.find? (·.url == url)).map fun first =>
        ((first.inMode mode).endpoint, SavedConnection.eventsUnder url loaded) := by
  refine ⟨?_, ?_, fun url => ?_⟩
  · rintro before c after rfl
    have hfound := connection?_replayed mode (before ++ c :: after) manifest before c.url
    have hsome : ((before ++ c :: after).find? (·.url == c.url)).isSome :=
      List.find?_isSome.2 ⟨c, List.mem_append_right _ List.mem_cons_self, beq_self_eq_true _⟩
    rw [← Option.isSome_map, ← hfound, Option.isSome_map] at hsome
    exact Option.isSome_iff_exists.1 hsome
  · have hurls : Endpoint.baseUrl ∘ SavedConnection.endpoint ∘ SavedConnection.inMode mode =
        SavedConnection.url := funext (SavedConnection.url_inMode mode)
    rw [← replayed_all, replayed, foldl_replayOne_eq, urls_ingestAll, urls, ofEndpoints,
      Connection.urls_ofEndpoints, List.map_map, List.map_map, Function.comp_assoc, hurls]
  · rw [← replayed_all]
    exact connection?_replayed mode loaded manifest loaded url

/-- Three entries: one machine is saved twice, under settings that differ, and what is saved the
second time begins with a message that cannot be decoded. -/
def savedTwice : List SavedConnection :=
  [⟨.ofUrl "http://a", [(clickAt 1).encode]⟩, ⟨.ofUrl "http://b", [(clickAt 2).encode]⟩,
    ⟨{ Endpoint.ofUrl "http://a" with mode := .user32, hubPath := "/other" },
      [.null, (clickAt 3).encode]⟩]

/-- The clicks of both entries are in one connection, which has the first settings. -/
theorem replay_complete_savedTwice :
    (replay (savedTwice.map (SavedConnection.inMode (some .coordinate))) .null).urls =
      ["http://a", "http://b"] ∧
    ∃ c, (replay (savedTwice.map (SavedConnection.inMode (some .coordinate))) .null).connection?
        "http://a" = some c ∧
      c.endpoint = { Endpoint.ofUrl "http://a" with mode := .coordinate } ∧
      c.buffer = [clickAt 1, clickAt 3] := by
  obtain ⟨-, hurls, hfound⟩ := replay_complete (some .coordinate) savedTwice .null
  have hdups : (savedTwice.map SavedConnection.url).eraseDups = ["http://a", "http://b"] := by
    decide
  have hnull : Event.decode? .null = none := rfl
  have hevents : SavedConnection.eventsUnder "http://a" savedTwice = [clickAt 1, clickAt 3] := by
    simp [SavedConnection.eventsUnder, savedTwice, SavedConnection.url, Endpoint.ofUrl, hnull,
      decode?_clickAt]
  have hfirst : savedTwice.find? (·.url == "http://a") =
      some ⟨.ofUrl "http://a", [(clickAt 1).encode]⟩ := rfl
  have hpair := hfound "http://a"
  rw [hfirst, hevents, Option.map_some] at hpair
  obtain ⟨c, hc, hpair⟩ := Option.map_eq_some_iff.1 hpair
  obtain ⟨hendpoint, hbuffer⟩ := Prod.mk.inj hpair
  exact ⟨by rw [hurls, hdups], c, hc, hendpoint, hbuffer⟩

end Session
end Recorder
