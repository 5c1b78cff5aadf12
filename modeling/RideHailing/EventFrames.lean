import RideHailing.DelimitedText
import RideHailing.LiveStreams

/-!
# Event frames

The text that `stream(key)` of `sse.py` sends: a frame for each event, with its name and its
payload on a line each.  Names and payloads without line breaks can be read off the text,
whatever else they contain, so what a stream has sent tells which events it has taken.
-/

namespace RideHailing

open DelimitedText

def formatEvent (event payload : String) : String :=
  "event: " ++ event ++ "\ndata: " ++ payload ++ "\n\n"

/-- The frames of the events, one after the other. -/
def frames : List (String × String) → String
  | [] => ""
  | (event, payload) :: events => formatEvent event payload ++ frames events

/-- A text with no carriage return and no line feed. -/
def OneLine (text : String) : Prop :=
  '\r' ∉ text.toList ∧ '\n' ∉ text.toList

instance (text : String) : Decidable (OneLine text) := by
  unfold OneLine
  infer_instance

/-- What a stream has sent. -/
def EventStream.sent (stream : EventStream String) : String :=
  frames stream.delivered

theorem toList_frames_cons (event payload : String) (events : List (String × String)) :
    (frames ((event, payload) :: events)).toList =
      "event: ".toList ++ (event.toList ++ '\n' :: ("data: ".toList ++
        (payload.toList ++ '\n' :: '\n' :: (frames events).toList))) := by
  simp [frames, formatEvent, String.toList_append]

/-- A prefix of the text of frames is the text of the first of the frames. -/
theorem prefix_of_frames {first second : List (String × String)}
    (firstLines : ∀ event ∈ first, OneLine event.1 ∧ OneLine event.2)
    (secondLines : ∀ event ∈ second, OneLine event.1 ∧ OneLine event.2)
    (isPrefix : (frames first).toList <+: (frames second).toList) : first <+: second := by
  induction first generalizing second with
  | nil => exact List.nil_prefix
  | cons event first ih =>
      obtain ⟨name, payload⟩ := event
      cases second with
      | nil =>
          rw [toList_frames_cons] at isPrefix
          have empty := List.prefix_nil.mp isPrefix
          cases empty
      | cons event' second =>
          obtain ⟨name', payload'⟩ := event'
          obtain ⟨⟨_, nameLine⟩, _, payloadLine⟩ := firstLines (name, payload) List.mem_cons_self
          obtain ⟨⟨_, nameLine'⟩, _, payloadLine'⟩ :=
            secondLines (name', payload') List.mem_cons_self
          rw [toList_frames_cons, toList_frames_cons, List.prefix_append_right_inj] at isPrefix
          obtain ⟨nameEq, dataLines⟩ := prefix_of_delimited nameLine nameLine' isPrefix
          rw [List.prefix_append_right_inj] at dataLines
          obtain ⟨payloadEq, blank⟩ := prefix_of_delimited payloadLine payloadLine' dataLines
          rw [List.cons_prefix_cons] at blank
          obtain rfl : name = name' := String.toList_inj.mp nameEq
          obtain rfl : payload = payload' := String.toList_inj.mp payloadEq
          rw [List.cons_prefix_cons]
          exact ⟨rfl, ih (fun event later => firstLines event (List.mem_cons_of_mem _ later))
            (fun event later => secondLines event (List.mem_cons_of_mem _ later)) blank.2⟩

/-- The frames of events on lines of their own can be decoded in one way only: a prefix of a
text of frames is the text of a prefix of the events, equal texts are of equal events, and two
streams that have sent the same have taken the same events in the same order. -/
theorem frames_decodable {first second : List (String × String)}
    (firstLines : ∀ event ∈ first, OneLine event.1 ∧ OneLine event.2)
    (secondLines : ∀ event ∈ second, OneLine event.1 ∧ OneLine event.2) :
    ((frames first).toList <+: (frames second).toList → first <+: second) ∧
      (frames first = frames second → first = second) ∧
        ∀ stream other : EventStream String, stream.delivered = first →
          other.delivered = second → stream.sent.toList <+: other.sent.toList →
            stream.delivered <+: other.delivered := by
  refine ⟨prefix_of_frames firstLines secondLines, ?_, ?_⟩
  · intro same
    have forth : first <+: second :=
      prefix_of_frames firstLines secondLines (same ▸ List.prefix_rfl)
    have back : second <+: first :=
      prefix_of_frames secondLines firstLines (same ▸ List.prefix_rfl)
    exact forth.eq_of_length (Nat.le_antisymm forth.length_le back.length_le)
  · rintro stream other rfl rfl isPrefix
    exact prefix_of_frames firstLines secondLines isPrefix

/-- A payload may look like a frame. -/
theorem frames_decodable_of_lookalike :
    (frames [("a", "data: event: b")]).toList <+:
        (frames [("a", "data: event: b"), ("event: b", "data: ")]).toList ∧
      [("a", "data: event: b")] <+: [("a", "data: event: b"), ("event: b", "data: ")] := by
  have isPrefix : (frames [("a", "data: event: b")]).toList <+:
      (frames [("a", "data: event: b"), ("event: b", "data: ")]).toList := by
    decide +kernel
  have firstLines : ∀ event ∈ [("a", "data: event: b")], OneLine event.1 ∧ OneLine event.2 := by
    decide +kernel
  have secondLines : ∀ event ∈ [("a", "data: event: b"), ("event: b", "data: ")],
      OneLine event.1 ∧ OneLine event.2 := by
    decide +kernel
  exact ⟨isPrefix, (frames_decodable firstLines secondLines).1 isPrefix⟩

end RideHailing
