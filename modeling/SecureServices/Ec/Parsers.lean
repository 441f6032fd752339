import SecureServices.Ec.Shims

namespace SecureServices
namespace Ec

open Library

/-!
# The parsers of response bodies

The parsers are chains of `take_array`, most of which end in
`take_exact_array`.  A chain with such an end accepts bodies of one length
only, and says of any other body whether it is too short or too long.  This is
proved for the end and carried over to what comes before it, so that it holds
of a parser because of its shape and not because of its fields.
-/

/-! ## Arrays -/

theorem takeArray_of_le {count : Nat} {body : List U8} (long : count ≤ body.length) :
    takeArray count body = .ok (⟨body.take count, List.length_take_of_le long⟩, body.drop count) :=
  dif_pos long

theorem takeArray_of_lt {count : Nat} {body : List U8} (short : body.length < count) :
    takeArray count body = .error .bodyTooShort := dif_neg (Nat.not_le_of_lt short)

theorem takeArray_bind_of_le {Value : Type} {count : Nat} {body : List U8} (long : count ≤ body.length)
    (next : Bytes count × List U8 -> Except EcRelayError Value) :
    (takeArray count body >>= next) =
      next (⟨body.take count, List.length_take_of_le long⟩, body.drop count) := by
  rw [takeArray_of_le long]
  rfl

theorem takeArray_bind_of_lt {Value : Type} {count : Nat} {body : List U8} (short : body.length < count)
    (next : Bytes count × List U8 -> Except EcRelayError Value) :
    (takeArray count body >>= next) = .error .bodyTooShort := by
  rw [takeArray_of_lt short]
  rfl

/-- An exact array is the whole body, if its length is right. -/
theorem takeExactArray_of_length {count : Nat} {body : List U8} (length : body.length = count) :
    takeExactArray count body = .ok ⟨body, length⟩ := by
  have rest : body.drop count = [] := by rw [← length, List.drop_length]
  have front : body.take count = body := by rw [← length, List.take_length]
  simp only [takeExactArray, takeArray_of_le (Nat.le_of_eq length.symm), rest, front]
  rfl

theorem takeExactArray_of_lt {count : Nat} {body : List U8} (short : body.length < count) :
    takeExactArray count body = .error .bodyTooShort := by
  simp only [takeExactArray, takeArray_of_lt short]
  rfl

theorem takeExactArray_of_gt {count : Nat} {body : List U8} (long : count < body.length) :
    takeExactArray count body = .error .bodyTooLong := by
  have rest : (body.drop count).isEmpty = false := by
    rw [List.isEmpty_eq_false_iff, ne_eq, List.drop_eq_nil_iff]
    omega
  simp only [takeExactArray, takeArray_of_le (Nat.le_of_lt long)]
  change (if (body.drop count).isEmpty = true then _ else _) = _
  rw [if_neg (Bool.eq_false_iff.mp rest)]

/-! ## Words -/

/-- The word of a body at an index, least significant byte first. -/
def wordAt (body : List U8) (index : Nat) : U32 := ofLeBytes 32 ((body.drop (4 * index)).take 4)

/-- Four bytes are one word. -/
theorem ofLeBytes_eq_wordAt {body : List U8} (length : body.length = 4) :
    ofLeBytes 32 body = wordAt body 0 := by
  rw [wordAt, Nat.mul_zero, List.drop_zero, List.take_of_length_le (Nat.le_of_eq length)]

theorem wordAt_drop (body : List U8) (index : Nat) :
    wordAt (body.drop 4) index = wordAt body (index + 1) := by
  rw [wordAt, wordAt, List.drop_drop]
  congr 3
  omega

/-- The words of a body spell its front. -/
theorem flatMap_wordAt {body : List U8} {count : Nat} (long : 4 * count ≤ body.length) :
    (List.range count).flatMap (fun index => leBytes 4 (wordAt body index)) = body.take (4 * count) := by
  induction count with
  | zero => rfl
  | succ count inductionHypothesis =>
      have word : leBytes 4 (wordAt body count) = (body.drop (4 * count)).take 4 := by
        apply leBytes_ofLeBytes
        rw [List.length_take, List.length_drop]
        omega
      rw [List.range_succ, List.flatMap_append, List.flatMap_singleton, inductionHypothesis (by omega),
        word, ← List.take_add]
      rfl

/-! ## Exact parsers -/

/-- A parser for bodies of one length only, with what it reads from them. -/
structure Exact {Value : Type} (count : Nat) (parse : List U8 -> Except EcRelayError Value)
    (reads : List U8 -> Value -> Prop) : Prop where
  short : forall {body : List U8}, body.length < count -> parse body = .error .bodyTooShort
  long : forall {body : List U8}, count < body.length -> parse body = .error .bodyTooLong
  exact : forall {body : List U8}, body.length = count ->
    exists value, parse body = .ok value ∧ reads body value

theorem Exact.error_of_ne {Value : Type} {count : Nat} {parse : List U8 -> Except EcRelayError Value}
    {reads : List U8 -> Value -> Prop} (parser : Exact count parse reads) {body : List U8}
    (length : body.length ≠ count) : exists error, parse body = .error error := by
  rcases Nat.lt_or_gt_of_ne length with short | long
  · exact ⟨_, parser.short short⟩
  · exact ⟨_, parser.long long⟩

theorem takeExactArray_exact (count : Nat) :
    Exact count (takeExactArray count) (fun body bytes => bytes.val = body) where
  short := takeExactArray_of_lt
  long := takeExactArray_of_gt
  exact := fun length => ⟨_, takeExactArray_of_length length, rfl⟩

/-- What an exact parser reads may be converted. -/
theorem Exact.map {Value Result : Type} {count : Nat} {parse : List U8 -> Except EcRelayError Value}
    {reads : List U8 -> Value -> Prop} (parser : Exact count parse reads) (convert : Value -> Result)
    {readsResult : List U8 -> Result -> Prop}
    (converted : forall {body : List U8} {value : Value}, body.length = count -> reads body value ->
      readsResult body (convert value)) :
    Exact count (fun body => parse body >>= fun value => pure (convert value)) readsResult where
  short := by
    intro body short
    rw [parser.short short]
    rfl
  long := by
    intro body long
    rw [parser.long long]
    rfl
  exact := by
    intro body length
    rcases parser.exact length with ⟨value, parsed, read⟩
    refine ⟨convert value, ?_, converted length read⟩
    rw [parsed]
    rfl

/-- An array may come before what an exact parser reads. -/
theorem Exact.after {Result : Type} {size count : Nat}
    {parse : Bytes size -> List U8 -> Except EcRelayError Result}
    {reads : Bytes size -> List U8 -> Result -> Prop}
    (parser : forall bytes, Exact count (parse bytes) (reads bytes))
    {readsResult : List U8 -> Result -> Prop}
    (joined : forall {body : List U8} (bytes : Bytes size) {result : Result}, body.take size = bytes.val ->
      reads bytes (body.drop size) result -> readsResult body result) :
    Exact (size + count) (fun body => takeArray size body >>= fun front => parse front.1 front.2)
      readsResult where
  short := by
    intro body short
    by_cases enough : size ≤ body.length
    · rw [takeArray_bind_of_le enough]
      apply (parser _).short
      rw [List.length_drop]
      omega
    · rw [takeArray_bind_of_lt (Nat.lt_of_not_le enough)]
  long := by
    intro body long
    rw [takeArray_bind_of_le (Nat.le_of_add_right_le (Nat.le_of_lt long))]
    apply (parser _).long
    rw [List.length_drop]
    omega
  exact := by
    intro body length
    have enough : size ≤ body.length := by omega
    have rest : (body.drop size).length = count := by
      rw [List.length_drop]
      omega
    rcases (parser ⟨body.take size, List.length_take_of_le enough⟩).exact rest with ⟨result, parsed, read⟩
    refine ⟨result, ?_, joined _ rfl read⟩
    rw [takeArray_bind_of_le enough]
    exact parsed

/-! ## The parsers of the services -/

theorem parseEmptyResponse_exact : Exact 0 parseEmptyResponse (fun _ _ => True) :=
  (takeExactArray_exact 0).map _ (fun _ _ => trivial)

theorem parseU32_exact : Exact 4 parseU32 (fun body word => word = wordAt body 0) := by
  refine (takeExactArray_exact 4).map _ ?_
  intro body bytes length same
  rw [same, ofLeBytes_eq_wordAt length]

theorem parseU32_of_length {body : List U8} (length : body.length = 4) :
    parseU32 body = .ok (wordAt body 0) := by
  rcases parseU32_exact.exact length with ⟨_, parsed, rfl⟩
  exact parsed

namespace Thermal

theorem parseThreshold_exact : Exact 12 parseThreshold
    (fun body threshold => threshold = (wordAt body 0, wordAt body 1, wordAt body 2)) := by
  have high : forall timeout low : Bytes 4, Exact 4
      (fun body => takeExactArray 4 body >>= fun high =>
        pure (ofLeBytes 32 timeout.val, ofLeBytes 32 low.val, ofLeBytes 32 high.val))
      (fun body threshold =>
        threshold = (ofLeBytes 32 timeout.val, ofLeBytes 32 low.val, wordAt body 0)) := by
    intro timeout low
    refine (takeExactArray_exact 4).map _ ?_
    intro body bytes length same
    rw [same, ofLeBytes_eq_wordAt length]
  have low : forall timeout : Bytes 4, Exact 8
      (fun body => takeArray 4 body >>= fun low => takeExactArray 4 low.2 >>= fun high =>
        pure (ofLeBytes 32 timeout.val, ofLeBytes 32 low.1.val, ofLeBytes 32 high.val))
      (fun body threshold => threshold = (ofLeBytes 32 timeout.val, wordAt body 0, wordAt body 1)) := by
    intro timeout
    refine Exact.after (high timeout) ?_
    intro body bytes threshold front read
    rw [read, ← front, wordAt_drop]
    rfl
  refine Exact.after low ?_
  intro body bytes threshold front read
  rw [read, ← front, wordAt_drop, wordAt_drop]
  rfl

theorem parseThreshold_of_length {body : List U8} (length : body.length = 12) :
    parseThreshold body = .ok (wordAt body 0, wordAt body 1, wordAt body 2) := by
  rcases parseThreshold_exact.exact length with ⟨_, parsed, rfl⟩
  exact parsed

end Thermal

namespace Battery

/-- Four words are read, whatever follows them. -/
theorem parseBst_of_le {body : List U8} (long : 16 ≤ body.length) :
    parseBst body = .ok ⟨wordAt body 0, wordAt body 1, wordAt body 2, wordAt body 3⟩ := by
  have first : 4 ≤ body.length := by omega
  have second : 4 ≤ (body.drop 4).length := by
    rw [List.length_drop]
    omega
  have third : 4 ≤ ((body.drop 4).drop 4).length := by
    rw [List.drop_drop, List.length_drop]
    omega
  have fourth : 4 ≤ (((body.drop 4).drop 4).drop 4).length := by
    rw [List.drop_drop, List.drop_drop, List.length_drop]
    omega
  rw [← wordAt_drop body 2, ← wordAt_drop (body.drop 4) 1, ← wordAt_drop ((body.drop 4).drop 4) 0,
    ← wordAt_drop body 1, ← wordAt_drop (body.drop 4) 0, ← wordAt_drop body 0]
  rw [parseBst, takeArray_bind_of_le first]
  dsimp only
  rw [takeArray_bind_of_le second]
  dsimp only
  rw [takeArray_bind_of_le third]
  dsimp only
  rw [takeArray_bind_of_le fourth]
  rfl

theorem parseBst_of_lt {body : List U8} (short : body.length < 16) :
    parseBst body = .error .bodyTooShort := by
  by_cases first : 4 ≤ body.length
  · rw [parseBst, takeArray_bind_of_le first]
    dsimp only
    by_cases second : 4 ≤ (body.drop 4).length
    · rw [takeArray_bind_of_le second]
      dsimp only
      by_cases third : 4 ≤ ((body.drop 4).drop 4).length
      · rw [takeArray_bind_of_le third]
        dsimp only
        refine takeArray_bind_of_lt ?_ _
        rw [List.drop_drop, List.drop_drop, List.length_drop]
        omega
      · exact takeArray_bind_of_lt (Nat.lt_of_not_le third) _
    · exact takeArray_bind_of_lt (Nat.lt_of_not_le second) _
  · exact takeArray_bind_of_lt (Nat.lt_of_not_le first) _

end Battery

end Ec
end SecureServices
