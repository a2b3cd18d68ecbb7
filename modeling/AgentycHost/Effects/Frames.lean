import AgentycHost.Core.Frames
import AgentycHost.Shared.Encodings

set_option autoImplicit false

/-! # What a frame decoder holds between two bytes -/

namespace AgentycHost

open Shared

variable {decoder : FrameDecoder} {byte : UInt8} {held payload : List UInt8} {rest rest' : List UInt8}

section Lengths

variable {octets frame : List UInt8} {bound : Nat}

theorem fromBeBytes_toBeBytes {value : Nat} (fits : value ≤ u32Max) : fromBeBytes (toBeBytes value) = value := by
  unfold u32Max at fits
  simp only [fromBeBytes, toBeBytes, List.foldl_cons, List.foldl_nil, UInt8.toNat_ofNat']
  omega

theorem four_octets (four : octets.length = framePrefixBytes) :
    ∃ first second third fourth, octets = [first, second, third, fourth] := by
  obtain ⟨first, rest, rfl⟩ := List.exists_cons_of_length_eq_add_one four
  obtain ⟨second, third, fourth, rfl⟩ := List.length_eq_three.mp (Nat.succ.inj four)
  exact ⟨first, second, third, fourth, rfl⟩

theorem toBeBytes_fromBeBytes (four : octets.length = framePrefixBytes) :
    toBeBytes (fromBeBytes octets) = octets := by
  obtain ⟨first, second, third, fourth, rfl⟩ := four_octets four
  have one := first.toNat_lt
  have two := second.toNat_lt
  have three := third.toNat_lt
  have last := fourth.toNat_lt
  simp only [fromBeBytes, toBeBytes, List.foldl_cons, List.foldl_nil, List.cons.injEq, and_true, ← UInt8.toNat_inj,
    UInt8.toNat_ofNat']
  omega

theorem fromBeBytes_le (four : octets.length = framePrefixBytes) : fromBeBytes octets ≤ u32Max := by
  obtain ⟨first, second, third, fourth, rfl⟩ := four_octets four
  have one := first.toNat_lt
  have two := second.toNat_lt
  have three := third.toNat_lt
  have last := fourth.toNat_lt
  unfold u32Max
  simp only [fromBeBytes, List.foldl_cons, List.foldl_nil]
  omega

def frameImage (payload : List UInt8) : List UInt8 := toBeBytes payload.length ++ payload

theorem toBeBytes_length (value : Nat) : (toBeBytes value).length = framePrefixBytes := rfl

theorem encodeFrame_ok {payload : List UInt8} : encodeFrame payload bound = .ok frame <->
    bound ≤ u32Max ∧ payload.length ≤ bound ∧ frame = frameImage payload := by
  unfold encodeFrame frameImage
  split_ifs with large long
  · simp only [false_iff, not_and]
    omega
  · simp only [false_iff, not_and]
    omega
  · simp only [Except.ok.injEq, eq_comm]
    constructor
    · intro same
      exact ⟨Nat.le_of_not_lt large, by omega, same⟩
    · exact fun holds => holds.2.2

theorem decodeFrame_ok {payload : List UInt8} :
    decodeFrame frame bound = .ok payload <-> encodeFrame payload bound = .ok frame := by
  rw [encodeFrame_ok]
  unfold decodeFrame
  dsimp only
  constructor
  · intro decoded
    split_ifs at decoded with large short long truncated trailing
    have four : (frame.take framePrefixBytes).length = framePrefixBytes := by
      rw [List.length_take]
      omega
    have exact_length : frame.length = framePrefixBytes + fromBeBytes (frame.take framePrefixBytes) := by omega
    obtain rfl := Except.ok.inj decoded
    have size : (frame.drop framePrefixBytes).length = fromBeBytes (frame.take framePrefixBytes) := by
      rw [List.length_drop]
      omega
    refine ⟨Nat.le_of_not_lt large, by omega, ?_⟩
    rw [frameImage, size, toBeBytes_fromBeBytes four, List.take_append_drop]
  · rintro ⟨fits, within, rfl⟩
    have size : (frameImage payload).length = framePrefixBytes + payload.length := by
      rw [frameImage, List.length_append, toBeBytes_length]
    have length : fromBeBytes ((frameImage payload).take framePrefixBytes) = payload.length := by
      rw [frameImage, List.take_left' (toBeBytes_length _), fromBeBytes_toBeBytes (Nat.le_trans within fits)]
    rw [length, size, if_neg (Nat.not_lt_of_le fits), if_neg (by omega), if_neg (Nat.not_lt_of_le within),
      if_neg (by omega), if_neg (by omega), frameImage, List.drop_left' (toBeBytes_length _)]

theorem frameImage_code {one other : List UInt8} (fits : one.length ≤ u32Max) (fits' : other.length ≤ u32Max)
    (same : frameImage one ++ rest = frameImage other ++ rest') : one = other ∧ rest = rest' := by
  rw [frameImage, frameImage, List.append_assoc, List.append_assoc] at same
  obtain ⟨lengths, same⟩ := List.append_inj same rfl
  have sizes : one.length = other.length := by
    rw [← fromBeBytes_toBeBytes fits, ← fromBeBytes_toBeBytes fits', lengths]
  exact List.append_inj same sizes

end Lengths

section Splitting

def Unfinished (bound : Nat) (held : List UInt8) : Prop :=
  held.length < framePrefixBytes ∨
    ∃ length payload, held = toBeBytes length ++ payload ∧ length ≤ bound ∧ payload.length < length

def Oversized (bound : Nat) (held : List UInt8) : Prop :=
  ∃ length rest, held = toBeBytes length ++ rest ∧ bound < length ∧ length ≤ u32Max

/-- The bytes are some complete frames within the bound, and then `held`. -/
structure Splits (bound : Nat) (stream : List UInt8) (frames : List (List UInt8)) (held : List UInt8) : Prop where
  stream : stream = frames.flatMap frameImage ++ held
  bounded : ∀ frame, frame ∈ frames -> frame.length ≤ bound

structure Holding (bound : Nat) (decoder : FrameDecoder) (held : List UInt8) : Prop where
  limit : decoder.maxPayloadBytes = bound
  sound : decoder.poisoned = false
  state : (decoder.expectedPayload = none ∧ decoder.prefixBytes = held ∧ decoder.payload = [] ∧
      held.length < framePrefixBytes) ∨
    ∃ length, decoder.expectedPayload = some length ∧ decoder.prefixBytes = [] ∧ length ≤ bound ∧
      held = toBeBytes length ++ decoder.payload ∧ decoder.payload.length < length

variable {bound : Nat} {stream : List UInt8} {frames : List (List UInt8)} {held' : List UInt8}

theorem new_holding (bound : Nat) : Holding (min bound u32Max) (.new bound) [] where
  limit := rfl
  sound := rfl
  state := .inl ⟨rfl, rfl, rfl, by decide⟩

theorem Holding.unfinished (holding : Holding bound decoder held) : Unfinished bound held := by
  obtain ⟨_, _, _, short⟩ | ⟨length, _, _, within, rfl, short⟩ := holding.state
  · exact .inl short
  · exact .inr ⟨length, decoder.payload, rfl, within, short⟩

theorem Holding.accept (holding : Holding bound decoder held) (byte : UInt8) :
    (∃ after, decoder.accept byte = (after, .ok none) ∧ Holding bound after (held ++ [byte])) ∨
    (∃ after payload, decoder.accept byte = (after, .ok (some payload)) ∧ Holding bound after [] ∧
      held ++ [byte] = frameImage payload ∧ payload.length ≤ bound) ∨
    (∃ after error, decoder.accept byte = (after, .error error) ∧ after.poisoned = true ∧
      Oversized bound (held ++ [byte]) ∧ held.length + 1 = framePrefixBytes) := by
  have limit := holding.limit
  have sound := holding.sound
  unfold FrameDecoder.accept
  obtain ⟨idle, pending, empty, short⟩ | ⟨length, expected, none_pending, within, written, short⟩ := holding.state
  · rw [idle, pending]
    dsimp only
    have grown : (held ++ [byte]).length = held.length + 1 := by simp
    by_cases more : (held ++ [byte]).length ≠ framePrefixBytes
    · rw [if_pos more]
      refine .inl ⟨_, rfl, ⟨limit, sound, .inl ⟨rfl, rfl, empty, ?_⟩⟩⟩
      omega
    rw [if_neg more, limit]
    have four : (held ++ [byte]).length = framePrefixBytes := not_not.mp more
    have written := (toBeBytes_fromBeBytes four).symm
    by_cases large : bound < fromBeBytes (held ++ [byte])
    · rw [if_pos large]
      exact .inr (.inr ⟨_, _, rfl, rfl, ⟨_, [], by rw [List.append_nil]; exact written, large, fromBeBytes_le four⟩,
        by rw [← grown]; exact four⟩)
    rw [if_neg large]
    by_cases zero : fromBeBytes (held ++ [byte]) = 0
    · -- a frame without a payload is complete with its length
      rw [if_pos zero]
      refine .inr (.inl ⟨_, [], rfl, ⟨rfl, sound, .inl ⟨rfl, rfl, empty, by decide⟩⟩, ?_, Nat.zero_le _⟩)
      rw [frameImage, List.append_nil, List.length_nil, ← zero]
      exact written
    · rw [if_neg zero]
      refine .inl ⟨_, rfl, ⟨rfl, sound, .inr ⟨_, rfl, rfl, Nat.le_of_not_lt large, ?_, Nat.pos_of_ne_zero zero⟩⟩⟩
      rw [List.append_nil]
      exact written
  · rw [expected]
    dsimp only
    have grown : (decoder.payload ++ [byte]).length = decoder.payload.length + 1 := by simp
    have longer : held ++ [byte] = toBeBytes length ++ (decoder.payload ++ [byte]) := by rw [written, List.append_assoc]
    by_cases full : (decoder.payload ++ [byte]).length = length
    · rw [if_pos full]
      refine .inr (.inl ⟨_, _, rfl, ⟨limit, sound, .inl ⟨rfl, none_pending, rfl, by decide⟩⟩, ?_, ?_⟩)
      · rw [frameImage, full, longer]
      · rw [full]
        exact within
    · rw [if_neg full]
      refine .inl ⟨_, rfl, ⟨limit, sound, .inr ⟨length, rfl, none_pending, within, longer, ?_⟩⟩⟩
      change (decoder.payload ++ [byte]).length < length
      omega

theorem Splits.nil (held : List UInt8) : Splits bound held [] held := ⟨rfl, by simp⟩

theorem Splits.cons (splits : Splits bound stream frames held) (within : payload.length ≤ bound) :
    Splits bound (frameImage payload ++ stream) (payload :: frames) held where
  stream := by rw [splits.stream, List.flatMap_cons, List.append_assoc]
  bounded frame inside := by
    obtain rfl | later := List.mem_cons.mp inside
    · exact within
    · exact splits.bounded frame later

theorem Splits.grow (splits : Splits bound stream frames held) (octets : List UInt8) :
    Splits bound (stream ++ octets) frames (held ++ octets) where
  stream := by rw [splits.stream, List.append_assoc]
  bounded := splits.bounded

theorem Splits.append {more : List (List UInt8)} {later : List UInt8} (splits : Splits bound stream frames held)
    (next : Splits bound (held ++ later) more held') : Splits bound (stream ++ later) (frames ++ more) held' where
  stream := by rw [splits.stream, List.append_assoc, next.stream, List.flatMap_append, List.append_assoc]
  bounded frame inside := by
    obtain early | late := List.mem_append.mp inside
    · exact splits.bounded frame early
    · exact next.bounded frame late

theorem Holding.feedBytes (holding : Holding bound decoder held) (earlier : List (List UInt8)) (octets : List UInt8) :
    (∃ after given held', decoder.feedBytes earlier octets = (after, .ok (earlier ++ given)) ∧
      Holding bound after held' ∧ Splits bound (held ++ octets) given held') ∨
    (∃ after error given before rest held', decoder.feedBytes earlier octets = (after, .error error) ∧
      octets = before ++ rest ∧ before ≠ [] ∧ Splits bound (held ++ before) given held' ∧ Oversized bound held' ∧
      held'.length = framePrefixBytes) := by
  induction octets generalizing decoder held earlier with
  | nil =>
    refine .inl ⟨decoder, [], held, ?_, holding, ?_⟩
    · rw [FrameDecoder.feedBytes, List.append_nil]
    · rw [List.append_nil]
      exact .nil held
  | cons byte rest ih =>
    rw [FrameDecoder.feedBytes, List.append_cons]
    obtain ⟨after, taken, holds⟩ | ⟨after, payload, taken, holds, image, within⟩ | ⟨after, error, taken, _, large, four⟩ :=
      holding.accept byte
    · rw [taken]
      dsimp only
      obtain ⟨last, given, held', fed, holds', splits⟩ | ⟨last, error, given, before, rest', held', fed, rfl, _, splits, large⟩ :=
        ih holds (earlier ++ (none : Option (List UInt8)).toList)
      · refine .inl ⟨last, given, held', ?_, holds', splits⟩
        rw [fed, Option.toList_none, List.append_nil]
      · refine .inr ⟨last, error, given, byte :: before, rest', held', fed, rfl, List.cons_ne_nil _ _, ?_, large⟩
        rw [List.append_cons]
        exact splits
    · rw [taken]
      dsimp only
      obtain ⟨last, given, held', fed, holds', splits⟩ | ⟨last, error, given, before, rest', held', fed, rfl, _, splits, large⟩ :=
        ih holds (earlier ++ (some payload).toList)
      · refine .inl ⟨last, payload :: given, held', ?_, holds', ?_⟩
        · rw [fed, Option.toList_some, List.append_assoc, List.singleton_append]
        · rw [image]
          exact splits.cons within
      · refine .inr ⟨last, error, payload :: given, byte :: before, rest', held', fed, rfl, List.cons_ne_nil _ _, ?_, large⟩
        rw [List.append_cons, image]
        exact splits.cons within
    · rw [taken]
      refine .inr ⟨after, error, [], [byte], rest, held ++ [byte], rfl, rfl, List.cons_ne_nil _ _, .nil _, large, ?_⟩
      rw [List.length_append, List.length_singleton, four]

def Ends (bound : Nat) (held : List UInt8) : Prop := Unfinished bound held ∨ Oversized bound held

theorem Ends.stuck (ends : Ends bound held) (fits : bound ≤ u32Max) (within : payload.length ≤ bound) :
    held ≠ frameImage payload ++ rest := by
  rintro rfl
  have small : payload.length ≤ u32Max := Nat.le_trans within fits
  obtain (short | ⟨length, more, same, least, short⟩) | ⟨length, more, same, large, small'⟩ := ends
  · simp only [frameImage, List.length_append, toBeBytes_length] at short
    omega
  · rw [frameImage, List.append_assoc] at same
    obtain ⟨lengths, same⟩ := List.append_inj same rfl
    have equal : payload.length = length := by
      rw [← fromBeBytes_toBeBytes small, lengths, fromBeBytes_toBeBytes (Nat.le_trans least fits)]
    have sizes := congrArg List.length same
    rw [List.length_append] at sizes
    omega
  · rw [frameImage, List.append_assoc] at same
    have lengths := List.append_inj_left same rfl
    have equal : payload.length = length := by
      rw [← fromBeBytes_toBeBytes small, lengths, fromBeBytes_toBeBytes small']
    omega

theorem Unfinished.small (unfinished : Unfinished bound held) : ¬ Oversized bound held := by
  rintro ⟨length, rest, rfl, large, small⟩
  obtain short | ⟨length', more, same, least, _⟩ := unfinished
  · simp only [List.length_append, toBeBytes_length] at short
    omega
  · have lengths := List.append_inj_left same rfl
    have equal : length = length' := by
      rw [← fromBeBytes_toBeBytes small, lengths, fromBeBytes_toBeBytes (by omega)]
    omega

theorem Splits.unique {frames' : List (List UInt8)} (fits : bound ≤ u32Max) (splits : Splits bound stream frames held)
    (ends : Ends bound held) (splits' : Splits bound stream frames' held') (ends' : Ends bound held') :
    frames = frames' ∧ held = held' := by
  induction frames generalizing frames' stream with
  | nil =>
    cases frames' with
    | nil => exact ⟨rfl, splits.stream.symm.trans splits'.stream⟩
    | cons other others =>
      have same := splits.stream.symm.trans splits'.stream
      rw [List.flatMap_nil, List.nil_append, List.flatMap_cons, List.append_assoc] at same
      exact absurd same (ends.stuck fits (splits'.bounded other List.mem_cons_self))
  | cons frame rest ih =>
    have within := splits.bounded frame List.mem_cons_self
    cases frames' with
    | nil =>
      have same := splits'.stream.symm.trans splits.stream
      rw [List.flatMap_nil, List.nil_append, List.flatMap_cons, List.append_assoc] at same
      exact absurd same (ends'.stuck fits within)
    | cons other others =>
      have within' := splits'.bounded other List.mem_cons_self
      have same := splits.stream.symm.trans splits'.stream
      rw [List.flatMap_cons, List.flatMap_cons, List.append_assoc, List.append_assoc] at same
      obtain ⟨rfl, later⟩ := frameImage_code (Nat.le_trans within fits) (Nat.le_trans within' fits) same
      obtain ⟨rfl, tails⟩ := ih ⟨rfl, fun frame inside => splits.bounded frame (List.mem_cons_of_mem _ inside)⟩
        ⟨later, fun frame inside => splits'.bounded frame (List.mem_cons_of_mem _ inside)⟩
      exact ⟨rfl, tails⟩

theorem Holding.feed (holding : Holding bound decoder held) (octets : List UInt8) :
    decoder.feed octets = decoder.feedBytes [] octets := by
  rw [FrameDecoder.feed, holding.sound]
  rfl

theorem Holding.finish (holding : Holding bound decoder held) :
    (held = [] ∧ decoder.finish = .ok ()) ∨
    (held ≠ [] ∧ ∃ expected actual, decoder.finish = .error (.truncated expected actual)) := by
  unfold FrameDecoder.finish
  rw [holding.sound, if_neg Bool.false_ne_true]
  obtain ⟨idle, pending, _, _⟩ | ⟨length, expected, pending, _, rfl, _⟩ := holding.state
  · rw [pending, idle]
    cases held with
    | nil => exact .inl ⟨rfl, rfl⟩
    | cons first rest => exact .inr ⟨List.cons_ne_nil _ _, _, _, rfl⟩
  · rw [pending, expected]
    exact .inr ⟨List.cons_ne_nil _ _, _, _, rfl⟩

theorem Oversized.append (large : Oversized bound held) (more : List UInt8) : Oversized bound (held ++ more) := by
  obtain ⟨length, rest, rfl, above, small⟩ := large
  exact ⟨length, rest ++ more, List.append_assoc _ _ _, above, small⟩

def framesSize (frames : List (List UInt8)) : Nat := (frames.flatMap frameImage).length

theorem framesSize_append (frames more : List (List UInt8)) :
    framesSize (frames ++ more) = framesSize frames + framesSize more := by
  simp [framesSize]

theorem Splits.size (splits : Splits bound stream frames held) : stream.length = framesSize frames + held.length := by
  rw [splits.stream, List.length_append, framesSize]

theorem Unfinished.shorter {more : List UInt8} (unfinished : Unfinished bound held) (fits : bound ≤ u32Max)
    (splits : Splits bound (held ++ more) frames rest) : frames = [] ∨ held.length < framesSize frames := by
  cases frames with
  | nil => exact .inl rfl
  | cons frame others =>
    right
    by_contra longer
    have within := splits.bounded frame List.mem_cons_self
    have same := splits.stream
    rw [List.flatMap_cons, List.append_assoc] at same
    have fewer : (frameImage frame).length ≤ held.length := by
      simp only [framesSize, List.flatMap_cons, List.length_append] at longer
      omega
    have starts : frameImage frame <+: held :=
      List.prefix_of_prefix_length_le ⟨_, same.symm⟩ ⟨more, rfl⟩ fewer
    obtain ⟨rest, whole⟩ := starts
    exact Ends.stuck (.inl unfinished) fits within whole.symm

/-- The chunk after the first `count` completes a length out of bounds, and the frames that it completed before that are
lost. -/
structure LosesAt (bound : Nat) (held : List UInt8) (chunks : List (List UInt8)) (count : Nat)
    (given lost : List (List UInt8)) (tail : List UInt8) : Prop where
  splits : Splits bound (held ++ chunks.flatten) (given ++ lost) tail
  oversized : Oversized bound tail
  reached : framesSize given ≤ held.length + (chunks.take count).flatten.length
  before : held.length + (chunks.take count).flatten.length < framesSize (given ++ lost) + framePrefixBytes
  completed : framesSize (given ++ lost) + framePrefixBytes ≤ held.length + (chunks.take (count + 1)).flatten.length
  losing : lost = [] ∨ held.length + (chunks.take count).flatten.length < framesSize (given ++ lost)

theorem Holding.feedChunks (holding : Holding bound decoder held) (fits : bound ≤ u32Max) (chunks : List (List UInt8)) :
    (∃ after given held', decoder.feedChunks chunks = (after, given, none) ∧ Holding bound after held' ∧
      Splits bound (held ++ chunks.flatten) given held') ∨
    (∃ after error count given lost tail, decoder.feedChunks chunks = (after, given, some error) ∧
      LosesAt bound held chunks count given lost tail) := by
  induction chunks generalizing decoder held with
  | nil =>
    refine .inl ⟨decoder, [], held, rfl, holding, ?_⟩
    rw [List.flatten_nil, List.append_nil]
    exact .nil held
  | cons chunk rest ih =>
    rw [FrameDecoder.feedChunks, holding.feed]
    obtain ⟨after, given, held', fed, holds, splits⟩ | ⟨after, error, given, before, rest', held', fed, rfl, some_read, splits, large, four⟩ :=
      holding.feedBytes [] chunk
    · rw [fed]
      dsimp only
      have whole : held ++ (chunk :: rest).flatten = held ++ chunk ++ rest.flatten := by
        rw [List.flatten_cons, List.append_assoc]
      obtain ⟨last, later, held'', fed', holds', splits'⟩ | ⟨last, error, count, later, lost, tail, fed', loses⟩ := ih holds
      · rw [fed', whole]
        exact .inl ⟨last, given ++ later, held'', rfl, holds', splits.append splits'⟩
      · rw [fed']
        refine .inr ⟨last, error, count + 1, given ++ later, lost, tail, rfl, ?_⟩
        have size := splits.size
        rw [List.length_append] at size
        have first := loses.reached
        have second := loses.before
        have third := loses.completed
        have fourth := loses.losing
        constructor
        case splits =>
          rw [whole]
          have joined := splits.append loses.splits
          rwa [← List.append_assoc given] at joined
        case oversized => exact loses.oversized
        case reached =>
          rw [framesSize_append, List.take_succ_cons, List.flatten_cons, List.length_append]
          omega
        case before =>
          rw [List.append_assoc, framesSize_append, List.take_succ_cons, List.flatten_cons, List.length_append]
          omega
        case completed =>
          rw [List.append_assoc, framesSize_append, List.take_succ_cons, List.flatten_cons, List.length_append]
          omega
        case losing =>
          refine fourth.imp_right fun shorter => ?_
          rw [List.append_assoc, framesSize_append, List.take_succ_cons, List.flatten_cons, List.length_append]
          omega
    · rw [fed]
      refine .inr ⟨after, error, 0, [], given, held' ++ (rest' ++ rest.flatten), rfl, ?_⟩
      have size := splits.size
      rw [List.length_append, four] at size
      have read := List.length_pos_iff.mpr some_read
      constructor
      case splits =>
        rw [List.nil_append, List.flatten_cons, List.append_assoc, ← List.append_assoc]
        exact splits.grow _
      case oversized => exact large.append _
      case reached => exact Nat.zero_le _
      case before =>
        rw [List.nil_append, List.take_zero, List.flatten_nil, List.length_nil]
        omega
      case completed =>
        rw [List.nil_append, List.take_succ_cons, List.take_zero, List.flatten_cons, List.length_append,
          List.length_append]
        omega
      case losing =>
        rw [List.nil_append, List.take_zero, List.flatten_nil, List.length_nil, Nat.add_zero]
        obtain unfinished := holding.unfinished
        exact unfinished.shorter fits splits

theorem splits_exists (fits : bound ≤ u32Max) (stream : List UInt8) :
    ∃ frames held, Splits bound stream frames held ∧ Ends bound held := by
  have fresh : Holding bound (.new bound) [] := by
    have holding := new_holding bound
    rwa [Nat.min_eq_left fits] at holding
  obtain ⟨after, given, held, _, holds, splits⟩ | ⟨after, error, count, given, lost, tail, _, loses⟩ :=
    fresh.feedChunks fits [stream]
  · rw [List.flatten_singleton, List.nil_append] at splits
    exact ⟨given, held, splits, .inl holds.unfinished⟩
  · have splits := loses.splits
    rw [List.flatten_singleton, List.nil_append] at splits
    exact ⟨given ++ lost, tail, splits, .inr loses.oversized⟩

end Splitting

end AgentycHost
