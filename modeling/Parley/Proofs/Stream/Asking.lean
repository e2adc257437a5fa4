/-
When a reader reads.

`FrameReader.trace` is a call for the next frame that keeps the reads which it
took, and `result_trace_standard` says that it is the call that readers make.
How room is reserved for a read is left open, as long as what is held stays and
the room is there. Every read is due (`Ask.Due`): there is no verdict yet on
what the reader holds, and it has room for a chunk. Hence a reader never waits
with a frame in hand, never takes a full buffer for the end of a stream, and
never goes on reading once it holds as much as the limit allows
(`reads_only_when_short`).
-/
import Parley.Proofs.Stream.Verdict

namespace Parley

/-! ### Where a source ends -/

/-- A read receives no byte, however much room it has. -/
def Source.AtEnd (s : Source) : Prop :=
  ∀ room, (s.read room).1 = .received []

/-- A read with room receives nothing only where a source ends. -/
theorem Source.atEnd_iff {s : Source} {room : Nat} (hroom : 0 < room) :
    s.AtEnd ↔ (s.read room).1 = .received [] := by
  refine ⟨fun h => h room, fun h more => ?_⟩
  unfold read at h ⊢
  split at h
  next hrest => exact absurd (eq_nil_of_take hroom (ReadResult.received.inj h)) hrest
  next hrest =>
    rw [if_neg hrest]
    split at h
    next => exact h
    next => rfl
    next => cases h
    next piece later harrivals =>
      have hpiece : piece = [] := eq_nil_of_take hroom (ReadResult.received.inj h)
      simp [hpiece, deliver]

namespace Frame

variable {maxPayload : Nat} {buffer : Bytes}

/-- A buffer on which there is no verdict yet is shorter than the longest frame
within the limit. -/
theorem length_lt_headerSize_add (h : split? maxPayload buffer = .ok none) :
    buffer.length < headerSize + maxPayload := by
  by_cases hshort : buffer.length < headerSize
  · omega
  · obtain ⟨frameId, typeId, n, rest, rfl⟩ := exists_header_append (Nat.le_of_not_lt hshort)
    obtain ⟨-, hmax, hpart⟩ := split?_header_eq_none.mp h
    rw [List.length_append, length_header]
    omega

/-- A buffer on which there is no verdict yet begins with no frame, whatever the limit. -/
theorem ne_bytes_append (h : split? maxPayload buffer = .ok none) {f : Frame}
    (hfits : f.payload.length ≤ maxLength) (rest : Bytes) : buffer ≠ f.bytes ++ rest := by
  rintro rfl
  rw [bytes, List.append_assoc] at h
  obtain ⟨-, -, hpart⟩ := split?_header_eq_none.mp h
  rw [toInt_ofNat_of_le_maxLength hfits, List.length_append] at hpart
  omega

end Frame

namespace FrameReader

/-! ### A call and its reads -/

/-- A read that a reader issues, and the source that it is issued on. -/
structure Ask where
  reader : FrameReader
  source : Source

namespace Ask

/-- How many bytes the read can receive. -/
def room (ask : Ask) : Nat := ask.reader.arena.room

/-- What the read yields, and what it leaves of the source. -/
def answer (ask : Ask) : ReadResult × Source := ask.source.read ask.room

end Ask

/-- A call for the next frame: the reads that it issued, in order, and what it
yields and leaves. -/
structure Trace where
  asks : List Ask
  result : Progress Frame × FrameReader × Source

/-- A call that goes on after a read. -/
def Trace.after (ask : Ask) (t : Trace) : Trace :=
  { t with asks := ask :: t.asks }

/-- A reader with room for a read, which is reserved in some way. -/
def preparedBy (how : Arena.Reserving) (r : FrameReader) : FrameReader :=
  { r with arena := r.arena.ensureWritableBy how chunkSize }

/-- The next frame with the reads that it took. -/
def trace (how : Arena.Reserving) (r : FrameReader) (src : Source) : Trace :=
  match Frame.split? r.limits.maxPayload r.arena.bytes with
  | .error e => ⟨[], (.failed e, r, src)⟩
  | .ok (some (frame, _)) => ⟨[], (.done frame, r.consume frame, src)⟩
  | .ok none =>
    let ask : Ask := ⟨r.preparedBy how, src⟩
    match _hread : ask.answer with
    | (.pending, src') => ⟨[ask], (.pending, ask.reader, src')⟩
    | (.failed e, src') =>
      if e.kind = .interrupted then (trace how ask.reader src').after ask
      else ⟨[ask], (.failed (.io e), ask.reader, src')⟩
    | (.received bs, src') =>
      if _hne : bs = [] then ⟨[ask], (.failed .connectionClosed, ask.reader, src')⟩
      else (trace how (ask.reader.collect bs) src').after ask
termination_by src.weight
decreasing_by
  · exact Source.weight_read_failed _hread
  · exact Source.weight_read_received _hread _hne

/-- The reads of calls one after the other. Every call finds its source as it
may have become by then: more has arrived, or it is another one altogether. -/
def reads (how : Arena.Reserving) : FrameReader → List Source → List Ask
  | _, [] => []
  | r, src :: later =>
    let call := r.trace how src
    call.asks ++ reads how call.result.2.1 later

@[simp] theorem arena_preparedBy (how : Arena.Reserving) (r : FrameReader) :
    (r.preparedBy how).arena = r.arena.ensureWritableBy how chunkSize := by
  rw [preparedBy]

@[simp] theorem limits_preparedBy (how : Arena.Reserving) (r : FrameReader) :
    (r.preparedBy how).limits = r.limits := by
  rw [preparedBy]

/-- **A trace is a call** where room is reserved as arenas do it. -/
theorem result_trace_standard (r : FrameReader) (src : Source) :
    (r.trace .standard src).result = r.next src := by
  fun_induction trace .standard r src with
  | case1 r src e hsplit => exact (next_of_refused hsplit src).symm
  | case2 r src f rest hsplit => exact (next_of_found hsplit src).1.symm
  | case3 r src hsplit ask src' hread => exact (next_of_read hsplit hread).symm
  | case4 r src hsplit ask e src' hread hkind ih =>
      exact ih.trans ((next_of_read hsplit hread).trans (if_pos hkind)).symm
  | case5 r src hsplit ask e src' hread hkind =>
      exact ((next_of_read hsplit hread).trans (if_neg hkind)).symm
  | case6 r src hsplit ask src' hread => exact (next_of_read hsplit hread).symm
  | case7 r src hsplit ask bs src' hread hne ih =>
      exact ih.trans ((next_of_read hsplit hread).trans (if_neg hne)).symm

theorem limits_trace (how : Arena.Reserving) (r : FrameReader) (src : Source) :
    (r.trace how src).result.2.1.limits = r.limits := by
  fun_induction trace how r src with
  | case1 | case2 => rfl
  | case3 r | case5 r | case6 r => exact limits_preparedBy how r
  | case4 r src hsplit ask e src' hread hkind ih => exact ih.trans (limits_preparedBy how r)
  | case7 r src hsplit ask bs src' hread hne ih =>
      exact ih.trans ((limits_collect _ bs).trans (limits_preparedBy how r))

/-- Every read is on the source that the one before it left, and the last one
leaves the source that the call leaves. -/
theorem sources_trace (how : Arena.Reserving) (r : FrameReader) (src : Source) :
    (r.trace how src).asks.map Ask.source ++ [(r.trace how src).result.2.2]
      = src :: (r.trace how src).asks.map (·.answer.2) := by
  fun_induction trace how r src with
  | case1 | case2 => rfl
  | case3 r src hsplit ask src' hread => simp [hread, ask]
  | case4 r src hsplit ask e src' hread hkind ih => simpa [Trace.after, hread, ask] using ih
  | case5 r src hsplit ask e src' hread hkind => simp [hread, ask]
  | case6 r src hsplit ask src' hread => simp [hread, ask]
  | case7 r src hsplit ask bs src' hread hne ih => simpa [Trace.after, hread, ask] using ih

/-! ### Reads are due -/

/-- What holds of a reader whenever it reads: there is no verdict yet on what it
holds, and it has room for a chunk. -/
structure Ask.Due (maxPayload : Nat) (ask : Ask) : Prop where
  undecided : Frame.split? maxPayload ask.reader.arena.bytes = .ok none
  chunk : chunkSize ≤ ask.room

theorem Ask.Due.atEnd_iff {maxPayload : Nat} {ask : Ask} (h : ask.Due maxPayload) :
    ask.source.AtEnd ↔ ask.answer.1 = .received [] :=
  Source.atEnd_iff (Nat.lt_of_lt_of_le (by decide) h.chunk)

/-- Making room decides nothing. -/
theorem due_preparedBy (how : Arena.Reserving) {r : FrameReader} (src : Source)
    (h : Frame.split? r.limits.maxPayload r.arena.bytes = .ok none) :
    Ask.Due r.limits.maxPayload ⟨r.preparedBy how, src⟩ where
  undecided := by
    rw [arena_preparedBy, Arena.bytes_ensureWritableBy]
    exact h
  chunk := by
    rw [Ask.room, arena_preparedBy]
    exact Arena.le_room_ensureWritableBy how (r.length_add_chunkSize_le h)

/-- **All reads of a call are due**, whatever the reader had collected before it. -/
theorem due_of_mem_trace (how : Arena.Reserving) (r : FrameReader) (src : Source) :
    ∀ ask ∈ (r.trace how src).asks, ask.Due r.limits.maxPayload := by
  fun_induction trace how r src with
  | case1 | case2 => exact List.forall_mem_nil _
  | case3 r src hsplit ask | case5 r src hsplit ask | case6 r src hsplit ask =>
      exact List.forall_mem_singleton.mpr (due_preparedBy how src hsplit)
  | case4 r src hsplit ask e src' hread hkind ih =>
      rw [limits_preparedBy] at ih
      exact List.forall_mem_cons.mpr ⟨due_preparedBy how src hsplit, ih⟩
  | case7 r src hsplit ask bs src' hread hne ih =>
      rw [limits_collect, limits_preparedBy] at ih
      exact List.forall_mem_cons.mpr ⟨due_preparedBy how src hsplit, ih⟩

/-- **All reads of a run of calls are due.** -/
theorem due_of_mem_reads (how : Arena.Reserving) (r : FrameReader) (srcs : List Source) :
    ∀ ask ∈ r.reads how srcs, ask.Due r.limits.maxPayload := by
  induction srcs generalizing r with
  | nil => exact List.forall_mem_nil _
  | cons src later ih =>
      have hlater := ih (r.trace how src).result.2.1
      rw [limits_trace] at hlater
      exact List.forall_mem_append.mpr ⟨r.due_of_mem_trace how src, hlater⟩

/-- A call finds the connection closed exactly if a read of it is at the end. -/
theorem closed_trace_iff (how : Arena.Reserving) (r : FrameReader) (src : Source) :
    (r.trace how src).result.1 = .failed .connectionClosed ↔
      ∃ ask ∈ (r.trace how src).asks, ask.source.AtEnd := by
  have hdue := r.due_of_mem_trace how src
  suffices h : (r.trace how src).result.1 = .failed .connectionClosed ↔
      ∃ ask ∈ (r.trace how src).asks, ask.answer.1 = .received [] by
    rw [h]
    exact exists_congr fun ask => and_congr_right fun hask => (hdue ask hask).atEnd_iff.symm
  clear hdue
  fun_induction trace how r src with
  | case1 r src e hsplit =>
      -- no header is refused for the end of a stream
      obtain ⟨-, ⟨-, rfl⟩ | ⟨-, -, rfl⟩⟩ := Frame.split?_eq_error.mp hsplit <;> simp
  | case2 => simp
  | case3 r src hsplit ask src' hread => simp [hread]
  | case4 r src hsplit ask e src' hread hkind ih => simpa [Trace.after, hread] using ih
  | case5 r src hsplit ask e src' hread hkind => simp [hread]
  | case6 r src hsplit ask src' hread => simp [hread]
  | case7 r src hsplit ask bs src' hread hne ih => simpa [Trace.after, hread, hne] using ih

/-- **A reader reads only when it must, and with room.** Let calls follow one
another with any limits, each on whatever its source has become by then, and
let room be reserved in any way that keeps what is held. At every read, what
the reader holds begins neither with a frame nor with a header to be refused,
so it is shorter than the longest frame that the limit allows; there is room
for a chunk; and if the read receives nothing, no read with more room would
have received a byte. The reads are those that a call takes, one on the source
that the other leaves, and the call finds the connection closed exactly if one
of them is at the end. -/
theorem reads_only_when_short (how : Arena.Reserving) (limits : FrameLimits)
    (srcs : List Source) :
    (∀ ask ∈ (ofLimits limits).reads how srcs,
      (∀ (f : Frame) (rest : Bytes), f.payload.length ≤ maxLength →
        ask.reader.arena.bytes ≠ f.bytes ++ rest) ∧
      (∀ e, Frame.split? limits.maxPayload ask.reader.arena.bytes ≠ .error e) ∧
      ask.reader.arena.length < Frame.headerSize + limits.maxPayload ∧
      chunkSize ≤ ask.room ∧
      (ask.answer.1 = .received [] → ask.source.AtEnd)) ∧
    ∀ (r : FrameReader) (src : Source),
      let call := r.trace how src
      call.asks.map Ask.source ++ [call.result.2.2] = src :: call.asks.map (·.answer.2) ∧
      (call.result.1 = .failed .connectionClosed ↔ ∃ ask ∈ call.asks, ask.source.AtEnd) ∧
      (r.trace .standard src).result = r.next src := by
  constructor
  · intro ask hask
    have hdue : ask.Due limits.maxPayload := due_of_mem_reads how _ srcs ask hask
    refine ⟨fun f rest hfits => Frame.ne_bytes_append hdue.undecided hfits rest, ?_,
      Frame.length_lt_headerSize_add hdue.undecided, hdue.chunk, hdue.atEnd_iff.mpr⟩
    intro e he
    cases hdue.undecided.symm.trans he
  · exact fun r src => ⟨r.sources_trace how src, r.closed_trace_iff how src,
      r.result_trace_standard src⟩

/-- Two calls of a reader without a buffer to begin with: the first is
interrupted inside a header and collects three bytes more than the frame that it
yields, the second finds the end behind an interruption. -/
theorem reads_only_when_short_of_leftover :
    let frame : Frame := ⟨1, 100, [7, 8]⟩
    let interrupted : Arrival := .failed (.ofKind .interrupted)
    let first : Source :=
      { arrivals := [.data (frame.bytes.take 4), interrupted,
          .data (frame.bytes.drop 4 ++ [0, 0, 0])] }
    let second : Source := { arrivals := [interrupted, .ended] }
    let asks := (ofLimits { maxPayload := 2, initialCapacity := 0 }).reads .standard [first, second]
    asks.map (·.reader.arena.length) = [0, 4, 4, 3, 3] ∧
      (∀ ask ∈ asks, ask.reader.arena.length < 12 ∧ 8192 ≤ ask.room) ∧
      ∀ ask ∈ asks.getLast?, ask.source.AtEnd := by
  intro frame interrupted first second asks
  have hreads := (reads_only_when_short .standard { maxPayload := 2, initialCapacity := 0 }
    [first, second]).1
  refine ⟨by decide +kernel, ?_, ?_⟩
  · intro ask hask
    obtain ⟨-, -, hshort, hroom, -⟩ := hreads ask hask
    exact ⟨hshort, hroom⟩
  · intro ask hask
    obtain ⟨-, -, -, -, hend⟩ := hreads ask (List.mem_of_getLast? hask)
    have hlast : asks.getLast?.map (·.answer.1) = some (.received []) := by decide +kernel
    rw [Option.mem_def.mp hask] at hlast
    exact hend (Option.some.inj hlast)

end FrameReader

end Parley
