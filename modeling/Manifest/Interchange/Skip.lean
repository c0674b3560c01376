import Manifest.Interchange.Reader

/-!
# Skipping a value

A member that no field asks for is skipped. Its value has to be JSON, but nothing is asked of it
beyond that: it may be as deep as it likes, its numbers as large, and its strings may hold halves of
surrogate pairs.
-/

namespace Manifest.Interchange

open Json

/-- The two kinds of containers. -/
inductive Container where
  | array
  | object
  deriving DecidableEq, Repr

/-- What may come next while a value is skipped. -/
inductive Awaited where
  | value
  | valueOrEnd
  | key
  | keyOrEnd
  | colon
  | commaOrEnd
  deriving DecidableEq, Repr

def Container.closing : Container → Token
  | .array => .closeBracket
  | .object => .closeBrace

/-- What comes behind a comma in a container. -/
def Container.awaited : Container → Awaited
  | .array => .value
  | .object => .key

/-- What is wrong if a token stands where a value is awaited. -/
def faultOf : Token → Fault
  | .brokenWord fault => fault
  | .brokenString _ fault => fault
  | _ => .malformed

/-- Leaves the tokens behind a value. The containers that are open are given from the inside out. -/
def skip : List Container → Awaited → List Token → Except ReadError (List Token)
  | _, _, [] => fail .truncated
  | [], .commaOrEnd, tokens => .ok tokens
  | containers, awaited, token :: rest =>
      let finish (outer : List Container) : Except ReadError (List Token) :=
        match outer with
        | [] => .ok rest
        | outer => skip outer .commaOrEnd rest
      let start : Except ReadError (List Token) :=
        match token with
        | .openBracket => skip (.array :: containers) .valueOrEnd rest
        | .openBrace => skip (.object :: containers) .keyOrEnd rest
        | .word _ | .numeral _ | .string _ => finish containers
        | token => fail (faultOf token)
      let name : Except ReadError (List Token) :=
        match token with
        | .string _ => skip containers .colon rest
        | .brokenString _ fault => fail fault
        | _ => fail .malformed
      match awaited, containers with
      | .value, _ => start
      | .valueOrEnd, _ :: outer => if token = .closeBracket then finish outer else start
      | .key, _ => name
      | .keyOrEnd, _ :: outer => if token = .closeBrace then finish outer else name
      | .colon, _ => if token = .colon then skip containers .value rest else fail .malformed
      | .commaOrEnd, container :: outer =>
          if token = container.closing then finish outer
          else if token = .comma then skip containers container.awaited rest
          else fail .malformed
      | _, [] => fail .malformed

/-- Skips one value. -/
def readIgnored : Reader Unit := fun tokens =>
  (skip [] .value tokens).map fun rest => ((), rest)

end Manifest.Interchange
