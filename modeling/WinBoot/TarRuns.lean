import WinBoot.TarValidator

/-! What the validator's loops do to the stream, whatever the decompressor's cuts: each consumes
a known number of bytes or fails, and a whole accepted run is a derivation of `Accepted`. -/

namespace WinBoot.Tar

theorem read_end {gzip : GzipStream} {count : Nat} (ended : gzip.pending = []) :
    gzip.read count = if gzip.damaged then .error .invalidData else .ok ([], gzip) := by
  simp [GzipStream.read, ended]

/-- Between the ends a read takes some bytes off the front, at least one and at most `count`. -/
theorem read_some {gzip : GzipStream} (count : Nat) (asked : 0 < count)
    (more : gzip.pending ≠ []) : ∃ chunk next, gzip.read count = .ok (chunk, next) ∧
      gzip.pending = chunk ++ next.pending ∧ next.damaged = gzip.damaged ∧
      0 < chunk.length ∧ chunk.length ≤ count := by
  let wanted := min count (max 1 (gzip.splits.headD count))
  have left : 0 < gzip.pending.length := List.length_pos_of_ne_nil more
  refine ⟨gzip.pending.take wanted, ⟨gzip.pending.drop wanted, gzip.splits.tail, gzip.damaged⟩,
    ?_, (List.take_append_drop ..).symm, rfl, ?_, ?_⟩
  · have open_ : gzip.pending.isEmpty = false := by simpa using more
    simp [GzipStream.read, open_, wanted]
  · rw [List.length_take]
    omega
  · rw [List.length_take]
    omega

/-- A chunk no longer than the block in front of the stream is the block's own front. -/
theorem chunk_of_block {chunk behind block rest : Bytes}
    (same : chunk ++ behind = block ++ rest) (short : chunk.length ≤ block.length) :
    ∃ more, block = chunk ++ more ∧ behind = more ++ rest := by
  rcases List.append_eq_append_iff.mp same with ⟨more, rfl, rfl⟩ | ⟨more, rfl, rfl⟩
  · exact ⟨more, rfl, rfl⟩
  · have none : more = [] := by
      simp only [List.length_append] at short
      exact List.length_eq_zero_iff.mp (by omega)
    exact ⟨[], by simp [none], by simp [none]⟩

/-! ### The header -/

theorem fillHeader_whole {turns : Nat} (header : Bytes) {block rest : Bytes}
    {gzip : GzipStream}
    (front : gzip.pending = block ++ rest) (size : header.length + block.length = 512)
    (enough : block.length ≤ turns) : ∃ next, fillHeader turns header gzip =
      .ok (header ++ block, next) ∧ next.pending = rest ∧ next.damaged = gzip.damaged := by
  induction turns generalizing header block gzip with
  | zero =>
    have none : block = [] := List.length_eq_zero_iff.mp (by omega)
    exact ⟨gzip, by simp [fillHeader, none], by simp [front, none], rfl⟩
  | succ turns ih =>
    by_cases full : header.length < 512
    · have more : gzip.pending ≠ [] := by
        have left : 0 < block.length := by omega
        rw [front]
        exact List.append_ne_nil_of_left_ne_nil (List.ne_nil_of_length_pos left) rest
      obtain ⟨chunk, next, took, cut, kept, positive, bound⟩ :=
        read_some (512 - header.length) (by omega) more
      obtain ⟨tail, rfl, behind⟩ := chunk_of_block (cut.symm.trans front) (by omega)
      simp only [List.length_append] at size enough
      obtain ⟨last, filled, rest', damaged⟩ := ih (header ++ chunk) behind
        (by simp only [List.length_append]; omega) (by omega)
      refine ⟨last, ?_, rest', damaged.trans kept⟩
      have nonzero : chunk.length ≠ 0 := by omega
      simp [fillHeader, full, took, filled, nonzero, bind, Except.bind]
    · have none : block = [] := List.length_eq_zero_iff.mp (by omega)
      exact ⟨gzip, by simp [fillHeader, full, none], by simp [front, none], rfl⟩

theorem fillHeader_short {turns : Nat} (header : Bytes) {gzip : GzipStream}
    (short : header.length + gzip.pending.length < 512) (enough : gzip.pending.length < turns)
    (result : Bytes × GzipStream) : fillHeader turns header gzip ≠ .ok result := by
  induction turns generalizing header gzip with
  | zero => omega
  | succ turns ih =>
    have full : header.length < 512 := by omega
    by_cases ended : gzip.pending = []
    · rcases broken : gzip.damaged <;>
        simp [fillHeader, full, read_end ended, broken, bind, Except.bind, refuse]
    · obtain ⟨chunk, next, took, cut, -, positive, -⟩ :=
        read_some (512 - header.length) (by omega) ended
      have lengths := congrArg List.length cut
      rw [List.length_append] at lengths
      have fewer : (header ++ chunk).length + next.pending.length < 512 := by
        rw [List.length_append]
        omega
      have rest := ih (header ++ chunk) fewer (by omega)
      have nonzero : chunk.length ≠ 0 := by omega
      simpa [fillHeader, full, took, nonzero, bind, Except.bind] using rest

theorem fillHeader_ok {gzip : GzipStream} {result : Bytes × GzipStream}
    (ok : fillHeader 512 [] gzip = .ok result) : result.1.length = 512 ∧
      gzip.pending = result.1 ++ result.2.pending ∧ result.2.damaged = gzip.damaged := by
  by_cases short : gzip.pending.length < 512
  · exact absurd ok (fillHeader_short [] (by simpa using short) short result)
  · have size : (gzip.pending.take 512).length = 512 := List.length_take_of_le (by omega)
    obtain ⟨next, filled, behind, kept⟩ := fillHeader_whole []
      (List.take_append_drop 512 gzip.pending).symm (by simpa using size) (Nat.le_of_eq size)
    rw [filled, List.nil_append, Except.ok.injEq] at ok
    subst ok
    exact ⟨size, by rw [behind, List.take_append_drop], kept⟩

/-! ### The data -/

theorem readData_whole (name : Bytes) {turns skip : Nat} (remaining : Nat) (content : Bytes)
    {body rest : Bytes} {gzip : GzipStream} (front : gzip.pending = body ++ rest)
    (size : body.length = skip)
    (enough : skip ≤ turns) : ∃ next, readData name turns skip remaining content gzip =
      .ok (content ++ body.take remaining, next) ∧ next.pending = rest ∧
      next.damaged = gzip.damaged := by
  induction turns generalizing skip remaining content body gzip with
  | zero =>
    have none : body = [] := List.length_eq_zero_iff.mp (by omega)
    exact ⟨gzip, by simp [readData, none], by simp [front, none], rfl⟩
  | succ turns ih =>
    by_cases left : 0 < skip
    · have more : gzip.pending ≠ [] := by
        rw [front]
        exact List.append_ne_nil_of_left_ne_nil (List.ne_nil_of_length_pos (by omega)) rest
      obtain ⟨buffer, next, took, cut, kept, positive, bound⟩ :=
        read_some (min 8192 skip) (by omega) more
      obtain ⟨tail, rfl, behind⟩ := chunk_of_block (cut.symm.trans front) (by omega)
      rw [List.length_append] at size
      obtain ⟨last, filled, rest', damaged⟩ := ih
        (remaining - min remaining buffer.length)
        (content ++ buffer.take (min remaining buffer.length)) behind
        (Nat.eq_sub_of_add_eq' size) (by omega)
      refine ⟨last, ?_, rest', damaged.trans kept⟩
      have nonzero : buffer.length ≠ 0 := by omega
      have content_cut : (buffer ++ tail).take remaining =
          buffer.take (min remaining buffer.length) ++
            tail.take (remaining - min remaining buffer.length) := by
        rw [List.take_append, ← List.take_eq_take_min]
        congr 2
        omega
      simp only [readData, left, took, nonzero, bind, Except.bind, if_true, if_false, filled,
        content_cut, List.append_assoc]
    · have none : body = [] := List.length_eq_zero_iff.mp (by omega)
      exact ⟨gzip, by simp [readData, left, none], by simp [front, none], rfl⟩

theorem readData_short {name : Bytes} {turns skip remaining : Nat} {content : Bytes}
    {gzip : GzipStream} (short : gzip.pending.length < skip)
    (enough : gzip.pending.length < turns) (result : Bytes × GzipStream) :
    readData name turns skip remaining content gzip ≠ .ok result := by
  induction turns generalizing skip remaining content gzip with
  | zero => omega
  | succ turns ih =>
    have left : 0 < skip := by omega
    by_cases ended : gzip.pending = []
    · rcases broken : gzip.damaged <;>
        simp [readData, left, read_end ended, broken, bind, Except.bind, refuse]
    · obtain ⟨buffer, next, took, cut, -, positive, -⟩ :=
        read_some (min 8192 skip) (by omega) ended
      have lengths := congrArg List.length cut
      rw [List.length_append] at lengths
      have nonzero : buffer.length ≠ 0 := by omega
      simp only [readData, left, took, nonzero, bind, Except.bind, if_true, if_false]
      exact ih (by omega) (by omega)

/-! ### The trailer -/

theorem drainTail_ok {turns : Nat} (tailBytes n : Nat) {gzip : GzipStream}
    (enough : gzip.pending.length < turns) (sofar : tailBytes ≤ 1048576) :
    drainTail turns tailBytes gzip = .ok n ↔ gzip.damaged = false ∧
      gzip.pending.all isNul ∧ tailBytes + gzip.pending.length ≤ 1048576 ∧
      n = tailBytes + gzip.pending.length := by
  induction turns generalizing tailBytes gzip with
  | zero => omega
  | succ turns ih =>
    by_cases ended : gzip.pending = []
    · rcases broken : gzip.damaged
      · simp [drainTail, read_end ended, broken, ended, bind, Except.bind, sofar, eq_comm]
      · simp [drainTail, read_end ended, broken, bind, Except.bind]
    · obtain ⟨tail, next, took, cut, kept, positive, -⟩ :=
        read_some 8192 (by omega) ended
      have lengths := congrArg List.length cut
      rw [List.length_append] at lengths
      have nonzero : tail.length ≠ 0 := by omega
      have clear : gzip.pending.all isNul = (tail.all isNul && next.pending.all isNul) := by
        rw [cut, List.all_append]
      simp only [drainTail, took, nonzero, bind, Except.bind, if_false]
      by_cases large : 1048576 < tailBytes + tail.length
      · simp only [large, if_true, refuse, reduceCtorEq, false_iff]
        omega
      · by_cases zero : tail.all isNul
        · have fewer : next.pending.length < turns := by omega
          have rest := ih (tailBytes + tail.length) fewer (by omega)
          simp only [large, zero, if_false, Bool.not_true, Bool.false_eq_true, rest, clear,
            Bool.true_and, kept, lengths, Nat.add_assoc]
        · simp [large, zero, refuse, clear]

theorem readTail_ok {n : Nat} {gzip : GzipStream} : readTail gzip = .ok n ↔
    gzip.damaged = false ∧ gzip.pending.all isNul ∧ gzip.pending.length ≤ 1048576 ∧
      512 ≤ gzip.pending.length ∧ gzip.pending.length % 512 = 0 ∧ n = gzip.pending.length := by
  have drained := fun n => drainTail_ok 0 n (Nat.lt_succ_self gzip.pending.length)
    (Nat.zero_le 1048576)
  simp only [Nat.zero_add] at drained
  rw [readTail]
  cases tail : drainTail (gzip.pending.length + 1) 0 gzip with
  | error refusal =>
    have refused := drained gzip.pending.length
    rw [tail] at refused
    simp only [bind, Except.bind, reduceCtorEq, false_iff]
    rintro ⟨sound, clear, bound, -⟩
    exact absurd (refused.mpr ⟨sound, clear, bound, rfl⟩) (by simp)
  | ok tailBytes =>
    obtain ⟨sound, clear, bound, rfl⟩ := (drained tailBytes).mp tail
    simp only [bind, Except.bind, sound, clear, bound, true_and]
    by_cases whole : gzip.pending.length < 512 ∨ gzip.pending.length % 512 ≠ 0
    · simp only [if_pos whole, refuse, reduceCtorEq, false_iff]
      omega
    · simp only [if_neg whole, Except.ok.injEq]
      omega

/-! ### Whole runs -/

variable {D : Type} {sha256 : Bytes → D}

/-- The streams the loop accepts from a given progress, and the progress it ends in. -/
inductive Accepted (sha256 : Bytes → D) : Nat → Progress D → Bytes → Progress D → Prop
  | trailer {room : Nat} {progress : Progress D} {data : Bytes} (zero : data.all isNul)
      (whole : data.length % 512 = 0) (long : 1024 ≤ data.length)
      (short : data.length ≤ 512 + 1048576) : Accepted sha256 room progress data
        { progress with tarBytes := progress.tarBytes + data.length }
  | entry {room : Nat} {progress result : Progress D} {header body rest : Bytes}
      {member : Member} (whole : header.length = 512) (used : ¬header.all isNul)
      (checked : inspectHeader progress.seen progress.expandedBytes header = .ok member)
      (size : body.length = padded member.size)
      (later : Accepted sha256 room (progress.add sha256 member (body.take member.size)) rest
        result) : Accepted sha256 (room + 1) progress (header ++ body ++ rest) result

theorem readEntry_ok {header : Bytes} {progress : Progress D} {gzip : GzipStream}
    {result : Progress D × GzipStream} (ok : readEntry sha256 header progress gzip = .ok result) :
    ∃ member body, inspectHeader progress.seen progress.expandedBytes header = .ok member ∧
      gzip.pending = body ++ result.2.pending ∧ result.2.damaged = gzip.damaged ∧
      body.length = padded member.size ∧
      result.1 = progress.add sha256 member (body.take member.size) := by
  rw [readEntry] at ok
  cases checked : inspectHeader progress.seen progress.expandedBytes header with
  | error refusal => simp [checked, bind, Except.bind] at ok
  | ok member =>
    simp only [checked, bind, Except.bind] at ok
    by_cases short : gzip.pending.length < padded member.size
    · cases read : readData member.name (padded member.size) (padded member.size) member.size []
          gzip with
      | error refusal => simp [read] at ok
      | ok data => exact absurd read (readData_short short short data)
    · have size : (gzip.pending.take (padded member.size)).length = padded member.size :=
        List.length_take_of_le (by omega)
      obtain ⟨next, read, behind, kept⟩ := readData_whole member.name member.size []
        (List.take_append_drop (padded member.size) gzip.pending).symm size (Nat.le_refl _)
      simp only [read, List.nil_append, pure, Except.pure, Except.ok.injEq] at ok
      subst ok
      exact ⟨member, gzip.pending.take (padded member.size), rfl,
        by rw [behind, List.take_append_drop], kept, size, rfl⟩

variable (sha256) in
theorem readEntry_whole {header body rest : Bytes} {progress : Progress D} {gzip : GzipStream}
    {member : Member}
    (checked : inspectHeader progress.seen progress.expandedBytes header = .ok member)
    (front : gzip.pending = body ++ rest) (size : body.length = padded member.size) :
    ∃ next, readEntry sha256 header progress gzip =
      .ok (progress.add sha256 member (body.take member.size), next) ∧
      next.pending = rest ∧ next.damaged = gzip.damaged := by
  obtain ⟨next, read, behind, kept⟩ :=
    readData_whole member.name member.size [] front size (Nat.le_refl _)
  refine ⟨next, ?_, behind, kept⟩
  simp [readEntry, checked, read, bind, Except.bind, pure, Except.pure]

theorem archiveLoop_turn (sha256 : Bytes → D) (room : Nat) (progress : Progress D)
    (gzip : GzipStream) :
    archiveLoop sha256 room progress gzip = (do
      let front ← fillHeader 512 [] gzip
      if front.1.all isNul then do
        let tailBytes ← readTail front.2
        pure { progress with tarBytes := progress.tarBytes + 512 + tailBytes }
      else do
        let entry ← readEntry sha256 front.1 progress front.2
        match room with
        | 0 => refuse "Archive has too many entries" []
        | room + 1 => archiveLoop sha256 room entry.1 entry.2) := by
  cases room <;> rfl

/-- One turn of an accepted run: the trailer, or an entry with room for it. -/
theorem archiveLoop_cases {room : Nat} {progress result : Progress D} {gzip : GzipStream}
    (ok : archiveLoop sha256 room progress gzip = .ok result) :
    (gzip.damaged = false ∧ Accepted sha256 room progress gzip.pending result) ∨
      ∃ fewer header body member next, room = fewer + 1 ∧ header.length = 512 ∧
        ¬header.all isNul ∧
        inspectHeader progress.seen progress.expandedBytes header = .ok member ∧
        body.length = padded member.size ∧ gzip.pending = header ++ body ++ next.pending ∧
        next.damaged = gzip.damaged ∧ archiveLoop sha256 fewer
          (progress.add sha256 member (body.take member.size)) next = .ok result := by
  rw [archiveLoop_turn] at ok
  cases filled : fillHeader 512 [] gzip with
  | error refusal => simp [filled, bind, Except.bind] at ok
  | ok front =>
    obtain ⟨header, next⟩ := front
    obtain ⟨whole, front, kept⟩ := fillHeader_ok filled
    simp only [filled, bind, Except.bind] at ok
    by_cases zero : header.all isNul
    · left
      simp only [zero, if_true] at ok
      cases tail : readTail next with
      | error refusal => simp [tail] at ok
      | ok tailBytes =>
        obtain ⟨sound, clear, bound, long, divided, rfl⟩ := readTail_ok.mp tail
        simp only [tail, pure, Except.pure, Except.ok.injEq] at ok
        have size : gzip.pending.length = 512 + next.pending.length := by
          rw [front, List.length_append, whole]
        refine ⟨kept ▸ sound, ?_⟩
        rw [← ok, Nat.add_assoc, ← size]
        refine .trailer ?_ (by omega) (by omega) (by omega)
        rw [front, List.all_append, zero, clear]
        rfl
    · right
      simp only [zero] at ok
      cases read : readEntry sha256 header progress next with
      | error refusal => simp [read] at ok
      | ok entry =>
        obtain ⟨member, body, checked, data, kept', size, added⟩ := readEntry_ok read
        cases room with
        | zero => simp [read, refuse] at ok
        | succ fewer =>
          simp only [read] at ok
          refine ⟨fewer, header, body, member, entry.2, rfl, whole, zero, checked, size, ?_,
            kept'.trans kept, ?_⟩
          · rw [front, data, List.append_assoc]
          · rw [← added]
            exact ok

/-- The loop accepts exactly the derivable streams, however they are cut. -/
theorem archiveLoop_ok {room : Nat} {progress result : Progress D} {gzip : GzipStream} :
    archiveLoop sha256 room progress gzip = .ok result ↔
      gzip.damaged = false ∧ Accepted sha256 room progress gzip.pending result := by
  constructor
  · intro ok
    induction room generalizing progress gzip with
    | zero =>
      rcases archiveLoop_cases ok with done | ⟨fewer, -, -, -, -, more, -⟩
      · exact done
      · omega
    | succ room ih =>
      rcases archiveLoop_cases ok with done | ⟨fewer, header, body, member, next, more, whole,
        used, checked, size, front, kept, later⟩
      · exact done
      · obtain rfl : room = fewer := by omega
        obtain ⟨sound, rest⟩ := ih later
        rw [front]
        exact ⟨kept ▸ sound, .entry whole used checked size rest⟩
  · rintro ⟨sound, accepted⟩
    generalize pending : gzip.pending = data at accepted
    induction accepted generalizing gzip with
    | @trailer room progress data zero whole long short =>
      have size : (data.take 512).length = 512 := List.length_take_of_le (by omega)
      have split := pending.trans (List.take_append_drop 512 data).symm
      obtain ⟨next, filled, behind, kept⟩ :=
        fillHeader_whole [] split (by simpa using size) (Nat.le_of_eq size)
      have clear : (data.take 512).all isNul ∧ (data.drop 512).all isNul := by
        rw [← Bool.and_eq_true, ← List.all_append, List.take_append_drop]
        exact zero
      have left : next.pending.length = data.length - 512 := by rw [behind, List.length_drop]
      have tail := readTail_ok.mpr ⟨kept.trans sound, behind ▸ clear.2, by omega, by omega,
        by omega, rfl⟩
      have total : progress.tarBytes + 512 + next.pending.length =
          progress.tarBytes + data.length := by omega
      rw [archiveLoop_turn]
      simp [filled, clear.1, tail, total, bind, Except.bind, pure, Except.pure]
    | @entry room progress result header body rest member whole used checked size later ih =>
      rw [List.append_assoc] at pending
      obtain ⟨next, filled, behind, kept⟩ :=
        fillHeader_whole [] pending (by simpa using whole) (Nat.le_of_eq whole)
      obtain ⟨last, read, behind', kept'⟩ := readEntry_whole sha256 checked behind size
      have rest := ih ((kept'.trans kept).trans sound) behind'
      rw [archiveLoop_turn]
      simpa [filled, used, read, bind, Except.bind] using rest

theorem assertSafeTar_loop {gzip : Gzip} {details : Details D} :
    assertSafeTar sha256 gzip = .ok details ↔ gzip.compressedLength ≤ 268435456 ∧
      ∃ result : Progress D, archiveLoop sha256 4096 .start gzip.stream = .ok result ∧
        result.entries ≠ 0 ∧ result.toDetails = details := by
  rw [assertSafeTar]
  by_cases small : gzip.compressedLength ≤ 268435456
  · cases loop : archiveLoop sha256 4096 .start gzip.stream with
    | error refusal => simp [require, small, bind, Except.bind]
    | ok result =>
      by_cases empty : result.entries = 0 <;>
        simp [require, small, empty, bind, Except.bind, pure, Except.pure]
  · simp [require, small, bind, Except.bind]

/-- A whole archive is accepted exactly when its stream is, from an empty beginning. -/
theorem assertSafeTar_ok {gzip : Gzip} {details : Details D} :
    assertSafeTar sha256 gzip = .ok details ↔ gzip.compressedLength ≤ 268435456 ∧
      gzip.damaged = false ∧ ∃ result : Progress D,
        Accepted sha256 4096 .start gzip.data result ∧ result.entries ≠ 0 ∧
        result.toDetails = details := by
  simp only [assertSafeTar_loop, archiveLoop_ok, and_assoc, exists_and_left]
  rfl

end WinBoot.Tar
