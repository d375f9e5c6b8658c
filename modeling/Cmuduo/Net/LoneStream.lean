import Cmuduo.Net.InLoopCalls

set_option autoImplicit false

namespace Cmuduo.Net

open Machine

namespace TcpConnection

-- The calls that write have nothing to do with the input buffer.
theorem with_channel_with_input (c next : TcpConnection) (input : Buffer) (result : Except Stop (Channel × Slot Unit))
    (done : c.withChannel result = .ok next) : (c.withInput input).withChannel result = .ok (next.withInput input) := by
  cases result with
  | error stop => cases done
  | ok pair =>
      cases done
      rfl

theorem buffer_remaining_with_input (c next : TcpConnection) (input : Buffer) (rest : CppString)
    (notices queued : List Notice) (done : c.bufferRemaining rest notices = .ok (next, queued)) :
    (c.withInput input).bufferRemaining rest notices = .ok (next.withInput input, queued) := by
  rw [bufferRemaining] at done ⊢
  by_cases empty : rest.bytes.length = 0
  · rw [if_pos empty] at done ⊢
    cases done
    rfl
  · rw [if_neg empty] at done ⊢
    cases appended : c.outputBuffer.append rest.bytes with
    | error stop => simp only [appended] at done; cases done
    | ok buffer =>
        simp only [appended] at done
        simp only [show (c.withInput input).outputBuffer = c.outputBuffer from rfl, appended]
        by_cases writing : c.channel.isWriting = true
        · rw [if_pos writing] at done
          rw [if_pos (show (c.withInput input).channel.isWriting = true from writing)]
          cases done
          rfl
        · rw [if_neg writing] at done
          rw [if_neg (show ¬(c.withInput input).channel.isWriting = true from writing)]
          cases turned : ({ c with outputBuffer := buffer } : TcpConnection).enableWriting with
          | error stop => simp only [turned] at done; cases done
          | ok after =>
              simp only [turned] at done
              cases done
              have same := with_channel_with_input _ next input _ turned
              exact congrArg (Except.map _) same

theorem send_in_loop_with_input (c next : TcpConnection) (input : Buffer) (data : CppString) (result : WriteResult)
    (queued : List Notice) (done : c.sendInLoop data result = .ok (next, queued)) :
    (c.withInput input).sendInLoop data result = .ok (next.withInput input, queued) := by
  rw [sendInLoop]
  cases send_in_loop_sends c next data result queued done with
  | refused _ closing same silent =>
      rw [same, silent]
      exact if_pos closing
  | broken errno accepted direct fault same silent =>
      rw [same, silent]
      exact (if_neg accepted).trans ((if_pos direct).trans (if_pos fault))
  | writes count accepted direct rest =>
      exact (if_neg accepted).trans ((if_pos direct).trans (buffer_remaining_with_input _ next input _ _ queued rest))
  | waits _ accepted behind rest =>
      have same := buffer_remaining_with_input c next input data [] queued rest
      by_cases direct : (!c.channel.isWriting) = true ∧ c.outputBuffer.readableBytes = 0
      · obtain ⟨errno, rfl, mild⟩ := behind direct
        exact (if_neg accepted).trans ((if_pos direct).trans ((if_neg mild).trans same))
      · exact (if_neg accepted).trans ((if_neg direct).trans same)

theorem shutdown_in_loop_with_input (c : TcpConnection) (input : Buffer) :
    (c.withInput input).shutdownInLoop = c.shutdownInLoop.withInput input := by
  cases writing : c.channel.isWriting <;> simp [shutdownInLoop, withInput, writing]

theorem handle_write_with_input (c next : TcpConnection) (input : Buffer) (result : WriteResult) (queued : List Notice)
    (done : c.handleWrite result = .ok (next, queued)) :
    (c.withInput input).handleWrite result = .ok (next.withInput input, queued) := by
  rw [handleWrite] at done ⊢
  by_cases writing : c.channel.isWriting = true
  · rw [if_pos writing] at done
    rw [if_pos (show (c.withInput input).channel.isWriting = true from writing)]
    cases written : c.outputBuffer.writeFd result with
    | error stop =>
        simp only [written] at done
        cases done
    | ok answer =>
        simp only [show (c.withInput input).outputBuffer = c.outputBuffer from rfl, written] at done ⊢
        cases answer with
        | error errno =>
            cases done
            rfl
        | ok out =>
            by_cases nothing : out.length = 0
            · simp only [if_pos nothing] at done ⊢
              cases done
              rfl
            · simp only [if_neg nothing] at done ⊢
              by_cases drained : (c.flushed out).outputBuffer.readableBytes = 0
              · rw [if_pos drained] at done
                cases disabled : (c.flushed out).disableWriting with
                | error stop =>
                    simp only [disabled] at done
                    cases done
                | ok quiet =>
                    simp only [disabled, Except.ok.injEq, Prod.mk.injEq] at done
                    obtain ⟨rfl, rfl⟩ := done
                    have same : ((c.withInput input).flushed out).disableWriting = .ok (quiet.withInput input) :=
                      with_channel_with_input _ quiet input _ disabled
                    refine (if_pos drained).trans ?_
                    simp only [same]
                    by_cases closing : quiet.state = .kDisconnecting
                    · rw [if_pos closing, if_pos (show (quiet.withInput input).state = .kDisconnecting from closing),
                        shutdown_in_loop_with_input]
                      rfl
                    · rw [if_neg closing, if_neg (show ¬(quiet.withInput input).state = .kDisconnecting from closing)]
                      rfl
              · rw [if_neg drained] at done
                cases done
                exact if_neg drained
  · rw [if_neg writing] at done
    rw [if_neg (show ¬(c.withInput input).channel.isWriting = true from writing)]
    cases done
    rfl

-- A connection that is up is the lone one but for its input, and one that is
-- closed has put out the same.
structure Streams (c : TcpConnection) (stream : OutputStream) : Prop where
  wire : c.wire = stream.conn.wire
  outputBuffer : c.outputBuffer = stream.conn.outputBuffer
  alike : c.state ≠ .kDisconnected → c.withInput stream.conn.inputBuffer = stream.conn

theorem step_streams (next : TcpConnection) (stream : OutputStream) (label : StreamLabel) (input : Buffer) (sent : List UInt8)
    (taken : stream.step label = some ⟨next.withInput input, sent⟩) :
    ∃ after, run OutputStream.step stream [label] = some after ∧ next.Streams after :=
  ⟨_, (run_cons _ _ _ _ _).mpr ⟨_, taken, rfl⟩, rfl, rfl, fun _ => rfl⟩

theorem send_streams (c next : TcpConnection) (stream : OutputStream) (data : CppString)
    (result : WriteResult) (notices : List Notice) (alike : c.withInput stream.conn.inputBuffer = stream.conn)
    (sent : c.sendInLoop data result = .ok (next, notices)) :
    ∃ after, run OutputStream.step stream [.sendInLoop data result] = some after ∧ next.Streams after := by
  have done := c.send_in_loop_with_input next stream.conn.inputBuffer data result notices sent
  rw [alike] at done
  refine next.step_streams stream _ stream.conn.inputBuffer
    (if stream.conn.state = .kDisconnecting then stream.sent else stream.sent ++ data.bytes) ?_
  rw [OutputStream.step, done]

end TcpConnection

deriving instance DecidableEq for StreamLabel

namespace OutputStream

-- What a send is given to write is lost on a broken connection, if nothing waits
-- before it.
def Breaks (s : OutputStream) (data : CppString) (result : WriteResult) : Prop :=
  s.conn.state ≠ .kDisconnecting ∧ data.bytes ≠ [] ∧ s.conn.outputBuffer.readable = [] ∧
    (result = .error .EPIPE ∨ result = .error .ECONNRESET)

def Delivers (s : OutputStream) : StreamLabel → Prop
  | .sendInLoop data result => ¬s.Breaks data result
  | .handleWrite result => s.conn.WithinBacklog result
  | _ => True

instance (s : OutputStream) (data : CppString) (result : WriteResult) : Decidable (s.Breaks data result) :=
  inferInstanceAs (Decidable (_ ∧ _))

instance (s : OutputStream) : (label : StreamLabel) → Decidable (s.Delivers label)
  | .sendInLoop data result => inferInstanceAs (Decidable (¬s.Breaks data result))
  | .handleWrite result => inferInstanceAs (Decidable (s.conn.WithinBacklog result))
  | .shutdown | .shutdownInLoop => .isTrue trivial

theorem step_delivers (s t : OutputStream) (label : StreamLabel) (isOpen : s.conn.Open) (intact : s.Intact)
    (taken : s.step label = some t) : t.conn.Open ∧ (t.Intact ↔ s.Delivers label) := by
  cases label with
  | sendInLoop data result =>
      simp only [step] at taken
      split at taken
      · next conn queued done =>
          cases taken
          by_cases refused : s.conn.state = .kDisconnecting
          · rw [s.conn.send_in_loop_refused conn data result queued refused done, if_pos refused]
            exact ⟨isOpen, iff_of_true intact fun breaks => breaks.1 refused⟩
          · obtain ⟨nextOpen, -, exactly⟩ := s.conn.send_in_loop_exact conn data result queued isOpen refused done
            refine ⟨nextOpen, ?_⟩
            rw [if_neg refused, Intact, ← intact, Delivers, Breaks, and_iff_right refused]
            exact exactly
      · cases taken
  | handleWrite result =>
      simp only [step] at taken
      split at taken
      · next conn queued done =>
          cases taken
          obtain ⟨nextOpen, -, exactly⟩ := s.conn.handle_write_exact conn result queued isOpen done
          refine ⟨nextOpen, ?_⟩
          rw [Intact, ← intact]
          exact exactly
      · cases taken
  | shutdown =>
      cases taken
      refine ⟨?_, iff_of_true ?_ trivial⟩
      · split
        · exact isOpen.set_state _
        · exact isOpen
      · by_cases connected : s.conn.state = .kConnected
        · rw [if_pos connected]
          exact intact
        · rw [if_neg connected]
          exact intact
  | shutdownInLoop =>
      cases taken
      cases writing : s.conn.channel.isWriting with
      | true =>
          rw [show s.conn.shutdownInLoop = s.conn from if_pos writing]
          exact ⟨isOpen, iff_of_true intact trivial⟩
      | false =>
          rw [show s.conn.shutdownInLoop = { s.conn with shutWr := true } from if_neg (by simp [writing])]
          exact ⟨⟨isOpen.valid, isOpen.registered, isOpen.events⟩, iff_of_true intact trivial⟩

end OutputStream

end Cmuduo.Net
