import Cmuduo.Net.Buffer
import Cmuduo.Net.Channel

set_option autoImplicit false

namespace Cmuduo.Net

inductive StateE where
  | kDisconnected
  | kConnecting
  | kConnected
  | kDisconnecting
deriving DecidableEq, Repr

-- The user callbacks that a connection queues on its own loop.
inductive Notice where
  | writeComplete
  | highWaterMark (size : Nat)
deriving DecidableEq, Repr

-- wire, taken and shutWr are not fields of the source: the bytes the kernel
-- has accepted on the socket, those of them that were bytes of the outgoing
-- stream, and whether ::shutdown(SHUT_WR) has been issued.
structure TcpConnection where
  state : StateE
  channel : Channel
  slot : Slot Unit
  writeCompleteCallback : Bool
  highWaterMarkCallback : Bool
  highWaterMark : Nat
  inputBuffer : Buffer
  outputBuffer : Buffer
  wire : List UInt8
  taken : List UInt8
  shutWr : Bool
deriving DecidableEq

namespace TcpConnection

def new (sockfd : Nat) (writeComplete highWater : Bool) (mark : Nat) : TcpConnection :=
  { state := .kConnecting
    channel := Channel.new sockfd
    slot := Slot.empty
    writeCompleteCallback := writeComplete
    highWaterMarkCallback := highWater
    highWaterMark := mark
    inputBuffer := Buffer.new kInitiaSize
    outputBuffer := Buffer.new kInitiaSize
    wire := []
    taken := []
    shutWr := false }

def setState (c : TcpConnection) (state : StateE) : TcpConnection := { c with state := state }

def connected (c : TcpConnection) : Bool := c.state == .kConnected

def withChannel (c : TcpConnection) (result : Except Stop (Channel × Slot Unit)) : Except Stop TcpConnection :=
  match result with
  | .error stop => .error stop
  | .ok (channel, slot) => .ok { c with channel := channel, slot := slot }

def enableReading (c : TcpConnection) : Except Stop TcpConnection :=
  c.withChannel (c.channel.enableReading () c.slot)

def enableWriting (c : TcpConnection) : Except Stop TcpConnection :=
  c.withChannel (c.channel.enableWriting () c.slot)

def disableWriting (c : TcpConnection) : Except Stop TcpConnection :=
  c.withChannel (c.channel.disableWriting () c.slot)

def disableAll (c : TcpConnection) : Except Stop TcpConnection :=
  c.withChannel (c.channel.disableAll () c.slot)

def channelRemove (c : TcpConnection) : Except Stop TcpConnection :=
  c.withChannel (EpollPoller.removeChannel () c.channel c.slot)

-- channel_->tie and enableReading, the part of connectEstablished between
-- setState(kConnected) and the connection callback.
def tieAndEnableReading (c : TcpConnection) : Except Stop TcpConnection :=
  { c with channel := { c.channel with tied := true } }.enableReading

def connectEstablished (c : TcpConnection) : Except Stop TcpConnection :=
  (c.setState .kConnected).tieAndEnableReading

def shutdownInLoop (c : TcpConnection) : TcpConnection :=
  if c.channel.isWriting then c else { c with shutWr := true }

-- The kernel has accepted out: on a direct write, and on a flush, which also
-- drops as many bytes from the output buffer.
def wrote (c : TcpConnection) (out : List UInt8) : TcpConnection :=
  { c with wire := c.wire ++ out, taken := c.taken ++ out }

def flushed (c : TcpConnection) (out : List UInt8) : TcpConnection :=
  { c with
    wire := c.wire ++ out
    taken := c.taken ++ c.outputBuffer.readable.take out.length
    outputBuffer := c.outputBuffer.retrieve out.length }

-- The second half of sendInLoop: what the kernel did not take is appended to
-- the output buffer and write interest is turned on.
def bufferRemaining (c : TcpConnection) (rest : CppString) (notices : List Notice) :
    Except Stop (TcpConnection × List Notice) :=
  if rest.bytes.length = 0 then .ok (c, notices)
  else
    let oldLen := c.outputBuffer.readableBytes
    let newLen := sizeAdd oldLen rest.bytes.length
    let notices :=
      if newLen > c.highWaterMark ∧ oldLen < c.highWaterMark ∧ c.highWaterMarkCallback then
        notices ++ [.highWaterMark newLen]
      else notices
    match c.outputBuffer.append rest.bytes with
    | .error stop => .error stop
    | .ok buffer =>
        let c := { c with outputBuffer := buffer }
        if c.channel.isWriting then .ok (c, notices)
        else c.enableWriting.map fun c => (c, notices)

def sendInLoop (c : TcpConnection) (data : CppString) (result : WriteResult) :
    Except Stop (TcpConnection × List Notice) :=
  if c.state = .kDisconnecting then .ok (c, [])
  else if !c.channel.isWriting ∧ c.outputBuffer.readableBytes = 0 then
    match kernelWrite data.bytes result with
    | .ok out =>
        let notices :=
          if data.bytes.length - out.length = 0 ∧ c.writeCompleteCallback then [.writeComplete] else []
        (c.wrote out).bufferRemaining (data.drop out.length) notices
    | .error errno =>
        -- faultError: the data is dropped. The LOG_ERROR before this test is taken to
        -- leave errno alone.
        if errno = .EPIPE ∨ errno = .ECONNRESET then .ok (c, []) else c.bufferRemaining data []
  else c.bufferRemaining data []

def handleWrite (c : TcpConnection) (result : WriteResult) : Except Stop (TcpConnection × List Notice) :=
  if c.channel.isWriting then
    match c.outputBuffer.writeFd result with
    | .error stop => .error stop
    | .ok (.error _) => .ok (c, [])
    | .ok (.ok out) =>
        if out.length = 0 then .ok (c, [])
        else
          let c := c.flushed out
          if c.outputBuffer.readableBytes = 0 then
            match c.disableWriting with
            | .error stop => .error stop
            | .ok c =>
                .ok (if c.state = .kDisconnecting then c.shutdownInLoop else c,
                  if c.writeCompleteCallback then [.writeComplete] else [])
          else .ok (c, [])
  else .ok (c, [])

inductive ReadOutcome where
  | message
  | close
  | error
deriving DecidableEq, Repr

-- handleRead up to the call it ends with: the message callback, handleClose
-- or handleError.
def handleRead (c : TcpConnection) (result : ReadResult) : Except Stop (ReadOutcome × TcpConnection) :=
  match c.inputBuffer.readFd result with
  | .error stop => .error stop
  | .ok (.error _, buffer) => .ok (.error, { c with inputBuffer := buffer })
  | .ok (.ok n, buffer) => .ok (if n > 0 then .message else .close, { c with inputBuffer := buffer })

end TcpConnection

end Cmuduo.Net
