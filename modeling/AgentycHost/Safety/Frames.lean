import AgentycHost.Effects.Frames

set_option autoImplicit false

/-! # Frames under any fragmentation -/

namespace AgentycHost

open Shared

variable {bound : Nat} {payload frame : List UInt8} {payloads images chunks : List (List UInt8)} {stream held : List UInt8}

section RoundTrip

theorem encoded_splits (encoded : List.Forall₂ (fun payload image => encodeFrame payload bound = .ok image) payloads images) :
    Splits (min bound u32Max) images.flatten payloads [] := by
  induction encoded with
  | nil => exact .nil []
  | cons head _ ih =>
    obtain ⟨fits, within, rfl⟩ := encodeFrame_ok.mp head
    rw [List.flatten_cons]
    exact ih.cons (Nat.le_min.mpr ⟨within, Nat.le_trans within fits⟩)

theorem encoded_images (encoded : List.Forall₂ (fun payload image => encodeFrame payload bound = .ok image) payloads images) :
    images = payloads.map frameImage := by
  induction encoded with
  | nil => rfl
  | cons head _ ih =>
    obtain ⟨_, _, rfl⟩ := encodeFrame_ok.mp head
    rw [List.map_cons, ih]

theorem unfinished_nil (bound : Nat) : Unfinished bound [] := .inl (by decide)

theorem Oversized.stops {more : List UInt8} {frames : List (List UInt8)} (fits : bound ≤ u32Max)
    (whole : Splits bound (stream ++ more) payloads []) (splits : Splits bound stream frames held) :
    ¬ Oversized bound held := by
  intro large
  obtain ⟨_, same⟩ := (splits.grow more).unique fits (.inr (large.append more)) whole (.inl (unfinished_nil bound))
  obtain ⟨length, rest, rfl, _⟩ := large
  cases same

/-- Payloads come back from their frames however the frames are cut; a stream that breaks off inside a frame is
truncated; and one byte string is the frame of one payload. -/
theorem frame_codec_round_trip (bound : Nat) (payloads images : List (List UInt8))
    (encoded : List.Forall₂ (fun payload image => encodeFrame payload bound = .ok image) payloads images) :
    (∀ chunks : List (List UInt8), chunks.flatten = images.flatten ->
      ∃ decoder, (FrameDecoder.new bound).feedChunks chunks = (decoder, payloads, none) ∧ decoder.finish = .ok ()) ∧
    (∀ chunks : List (List UInt8), chunks.flatten <+: images.flatten ->
      (∀ count, chunks.flatten ≠ (images.take count).flatten) ->
      ∃ decoder given expected actual, (FrameDecoder.new bound).feedChunks chunks = (decoder, given, none) ∧
        decoder.finish = .error (.truncated expected actual)) ∧
    ∀ frame payload, decodeFrame frame bound = .ok payload <-> encodeFrame payload bound = .ok frame := by
  have fits : min bound u32Max ≤ u32Max := Nat.min_le_right _ _
  have whole := encoded_splits encoded
  refine ⟨fun chunks same => ?_, fun chunks starts inside => ?_, fun frame payload => decodeFrame_ok⟩
  · obtain ⟨after, given, held, fed, holds, splits⟩ | ⟨after, error, count, given, lost, tail, fed, loses⟩ :=
      (new_holding bound).feedChunks fits chunks
    · rw [List.nil_append, same] at splits
      obtain ⟨rfl, rfl⟩ := splits.unique fits (.inl holds.unfinished) whole (.inl (unfinished_nil _))
      obtain ⟨_, clean⟩ | ⟨absurdly, _⟩ := holds.finish
      · exact ⟨after, fed, clean⟩
      · exact absurd rfl absurdly
    · have splits := loses.splits
      rw [List.nil_append, same] at splits
      rw [← List.append_nil images.flatten] at whole
      exact absurd loses.oversized (Oversized.stops fits whole splits)
  · obtain ⟨more, same⟩ := starts
    rw [← same] at whole
    obtain ⟨after, given, held, fed, holds, splits⟩ | ⟨after, error, count, given, lost, tail, fed, loses⟩ :=
      (new_holding bound).feedChunks fits chunks
    · rw [List.nil_append] at splits
      obtain ⟨rfl, _⟩ | ⟨_, expected, actual, broken⟩ := holds.finish
      · -- the stream would end with a frame
        obtain ⟨later, tail, rest, ends⟩ := splits_exists fits more
        have joined := splits.append rest
        obtain ⟨rfl, _⟩ := joined.unique fits ends whole (.inl (unfinished_nil _))
        refine absurd ?_ (inside given.length)
        rw [encoded_images encoded, List.map_append, List.take_left' (List.length_map _), ← List.flatMap_def,
          splits.stream, List.append_nil]
      · exact ⟨after, given, expected, actual, fed, broken⟩
    · have splits := loses.splits
      rw [List.nil_append] at splits
      exact absurd loses.oversized (Oversized.stops fits whole splits)

/-- Two payloads, one of them empty, in chunks that cut a length and a payload; and a stream that breaks off. -/
theorem frame_codec_round_trip_sample :
    (∃ decoder, (FrameDecoder.new 3).feedChunks [[0, 0], [0, 2, 7], [], [8, 0, 0, 0, 0]] = (decoder, [[7, 8], []], none) ∧
      decoder.finish = .ok ()) ∧
    ∃ decoder given expected actual,
      (FrameDecoder.new 3).feedChunks [[0, 0, 0], [2, 7]] = (decoder, given, none) ∧
        decoder.finish = .error (.truncated expected actual) := by
  have encoded : List.Forall₂ (fun payload image => encodeFrame payload 3 = .ok image) [[7, 8], []]
      [[0, 0, 0, 2, 7, 8], [0, 0, 0, 0]] := .cons rfl (.cons rfl .nil)
  obtain ⟨whole, broken, _⟩ := frame_codec_round_trip 3 _ _ encoded
  refine ⟨whole _ rfl, broken _ ⟨[8, 0, 0, 0, 0], rfl⟩ ?_⟩
  rintro (_ | _ | _ | count)
  · decide
  · decide
  · decide
  · simp

end RoundTrip

section Malformed

theorem take_flatten_le (chunks : List (List UInt8)) {fewer more : Nat} (least : fewer ≤ more) :
    (chunks.take fewer).flatten.length ≤ (chunks.take more).flatten.length := by
  obtain ⟨rest, same⟩ := List.take_prefix_take_left least (l := chunks)
  rw [← same, List.flatten_append, List.length_append]
  exact Nat.le_add_right _ _

/-- The frames that a reader gets up to the first error are the complete frames before the first length out of
bounds, if a chunk ends after the last of them and before the end of that length. -/
theorem frames_before_malformed_iff (bound : Nat) (stream : List UInt8) :
    ∃ frames tail, Splits (min bound u32Max) stream frames tail ∧ Ends (min bound u32Max) tail ∧
      ∀ chunks : List (List UInt8), chunks.flatten = stream ->
        (((FrameDecoder.new bound).feedChunks chunks).2.1 = frames <->
          (Oversized (min bound u32Max) tail -> ∃ count, framesSize frames ≤ (chunks.take count).flatten.length ∧
            (chunks.take count).flatten.length < framesSize frames + framePrefixBytes)) := by
  have fits : min bound u32Max ≤ u32Max := Nat.min_le_right _ _
  obtain ⟨frames, tail, splits, ends⟩ := splits_exists fits stream
  refine ⟨frames, tail, splits, ends, fun chunks same => ?_⟩
  obtain ⟨after, given, held, fed, holds, read⟩ | ⟨after, error, count, given, lost, rest, fed, loses⟩ :=
    (new_holding bound).feedChunks fits chunks
  · rw [List.nil_append, same] at read
    obtain ⟨rfl, rfl⟩ := read.unique fits (.inl holds.unfinished) splits ends
    rw [fed]
    exact iff_of_true rfl fun large => absurd large holds.unfinished.small
  · have read := loses.splits
    rw [List.nil_append, same] at read
    obtain ⟨rfl, rfl⟩ := read.unique fits (.inr loses.oversized) splits ends
    rw [fed]
    have reached := loses.reached
    have cut := loses.before
    have completed := loses.completed
    simp only [List.length_nil, Nat.zero_add] at reached cut completed
    constructor
    · intro all _
      obtain rfl : lost = [] := List.self_eq_append_right.mp all
      rw [List.append_nil] at cut ⊢
      exact ⟨count, reached, cut⟩
    · intro meets
      obtain ⟨place, after_frames, in_length⟩ := meets loses.oversized
      obtain rfl | before := loses.losing
      · exact (List.append_nil given).symm
      · -- the chunk that completes the length starts inside a frame, so no chunk ends between them
        exfalso
        simp only [List.length_nil, Nat.zero_add] at before
        by_cases early : place ≤ count
        · have bound := take_flatten_le chunks early
          omega
        · have late : count + 1 ≤ place := by omega
          have bound := take_flatten_le chunks late
          omega

/-- The frame of the payload 7 and a length out of bounds. -/
theorem frame_before_malformed_lost :
    ∃ chunks chunks' : List (List UInt8), chunks.flatten = chunks'.flatten ∧
      ((FrameDecoder.new 3).feedChunks chunks).2.1 = [[7]] ∧ ((FrameDecoder.new 3).feedChunks chunks').2.1 = [] :=
  ⟨[[0, 0, 0, 1, 7], [0, 0, 0, 4]], [[0, 0, 0, 1, 7, 0, 0, 0, 4]], rfl, rfl, rfl⟩

end Malformed

end AgentycHost
