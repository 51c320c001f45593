import LispHost.Json
import LispHost.Projection

/-!
The JSON form of tags and projections.

A known tag is its label; an unknown one is an object holding its code. A projection is an object
whose `kind` names the shape, followed by the fields of that shape.
-/

set_option autoImplicit false

namespace LispHost

def Tag.toJson : Tag → Json
  | .unknown code => .object [("unknown", .word code)]
  | tag => .string tag.label

def Projection.toJson : Projection → Json
  | .int value => .object [("kind", .string "int"), ("value", .word value)]
  | .nil => .object [("kind", .string "nil")]
  | .true => .object [("kind", .string "true")]
  | .duo car cdr =>
    .object [("kind", .string "duo"), ("car", car.toJson), ("cdr", cdr.toJson)]
  | .sym name => .object [("kind", .string "sym"), ("name", .string name)]
  | .unknown tag raw =>
    .object [("kind", .string "unknown"), ("tag", tag.toJson), ("raw", .word raw)]
  | .undecodable raw len =>
    .object [("kind", .string "undecodable"), ("raw", .word raw), ("len", .word len)]
  | .cycle raw => .object [("kind", .string "cycle"), ("raw", .word raw)]
  | .elided raw => .object [("kind", .string "elided"), ("raw", .word raw)]

end LispHost
