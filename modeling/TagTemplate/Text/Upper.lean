/-
  TagTemplate.Text.Upper
  ────────────────────────────────
  **UPPER CASE.**

  The full upper-case mapping of Unicode without context or locale: a
  character may become several (`ß` becomes `SS`).
-/
import TagTemplate.Text.Ranges

namespace TagTemplate.Text

/-- The characters beyond ASCII that have an upper-case form. -/
def upperRuns : List String :=
  ["51:po 16:2b,2b 1*n:5c o*7:60 7:ag 2*o/:74 1c:21 2*3/:8i 7*8/:8p f:jg,26 2*n/:96 1b*3/:ah",
    "5:2b 1:g3 3*2/:aq 5:av 4:az 6:b5 3:dy 4:bc 1:fx 4:f4 3*3/:bk 7:br 5:bw 3:bz 4*2/:c3 5:c8",
    "4:cc 2:dz 6:ck 1:ck 2:cn 1:cn 2:cq 1:cq 2*8/:ct f:b2 2*9/:da h:22,lo 2:dt 1:dt 2:dw 4*k/:e0",
    "16*9/:f6 p:fv 3*2:8se 3:g1 5*5/:g6 9:8rz 1:8rx 1:8s0 1:ap 1:au 2*2:ax 3:b3 2:b4 1:x4b 4:b7",
    "1:x4c 2:b8 2:x3h 1:x4a 2:bb 1:ba 1:x4e 1:8rm 1:x4d 3:bg 2:8ry 1:bh 3:bj 8:8ro 3:bq 2:x51",
    "1:bt 4:x4h 1:by 1:g4 1*2:c1 2:g5 6:c7 b:x4i 1:x4g 4n:pl 18*2/:og 6:om 4*3:sd l:pl,lk,ld s:p2",
    "1*3:p4 3:px,lk,ld 1*h:pd h:pv 1*9:pv 9:p8 1*2:pa 3:pe 1:pk 4:py 1:ps 1:r3 2*c/:rc n:pm 1:pt",
    "1:s9 1:ov 2:ph 3:s7 3:sa 1h*w:sw w*g:sg h*h/:v4 16*r/:wa 1j*7/:xt d:xs 2*1c/:y8 40*12:10x",
    "12:111,11u 289*17:5n4 19*3:5od l7*6:3xs 1oo:sy 1:t0 1:ta 1*2:td 2:te 1:tm 1:v6 1:wui 6p:x31",
    "4:8rn h:x52 37*23/:5xc 45:20,mp 1:2c,lk 1:2f,lm 1:2h,lm 1:1t,ji 1:600 6*1c/:61s 2n*8:64o",
    "g*6:654 g*8:65k g*8:660 g*6:66g g:px,lv 1:66x 1:px,lv,lc 1:66z 1:px,lv,ld 1:671 1:px,lv,n6",
    "1:673 9*8:67c g*2:69m 2*4:6a0 4*2:6ai 2*2:6bc 2*2:6ay 2*2:6be 4:64o,pl 1:64p,pl 1:64q,pl",
    "1:64r,pl 1:64s,pl 1:64t,pl 1:64u,pl 1:64v,pl 1:64o,pl 1:64p,pl 1:64q,pl 1:64r,pl 1:64s,pl",
    "1:64t,pl 1:64u,pl 1:64v,pl 1:65k,pl 1:65l,pl 1:65m,pl 1:65n,pl 1:65o,pl 1:65p,pl 1:65q,pl",
    "1:65r,pl 1:65k,pl 1:65l,pl 1:65m,pl 1:65n,pl 1:65o,pl 1:65p,pl 1:65q,pl 1:65r,pl 1:67c,pl",
    "1:67d,pl 1:67e,pl 1:67f,pl 1:67g,pl 1:67h,pl 1:67i,pl 1:67j,pl 1:67c,pl 1:67d,pl 1:67e,pl",
    "1:67f,pl 1:67g,pl 1:67h,pl 1:67i,pl 1:67j,pl 1*2:69k 2:69m,pl 1:pd,pl 1:p2,pl 2:pd,n6",
    "1:pd,n6,pl 5:pd,pl 2:pl 4:6a2,pl 1:pj,pl 1:p5,pl 2:pj,n6 1:pj,n6,pl 5:pj,pl 4*2:6ag",
    "2:pl,lk,lc 1:pl,lk,ld 3:pl,n6 1:pl,lk,n6 9*2:6aw 2:px,lk,lc 1:px,lk,ld 1:pt,lv 1:6b0 1:px,n6",
    "1:px,lk,n6 b:6be,pl 1:q1,pl 1:pb,pl 2:q1,n6 1:q1,n6,pl 5:q1,pl 9e:6k2 y*g:6lc k:6mb ng*q:792",
    "1gg*1c:8ow 1d:8rk 4:fu 1:fy 2*3/:8rr b:8s2 3:8s5 b*1e/:8sg 2z*2/:8vf 7:8vm d*12:3a8 13:3bb",
    "6:3bh nx0*n/:wu8 1s*e/:ww0 4i*7/:x0i g*v/:x0y 1z*2/:x2x 5*5/:x32 d:x3f 5*2/:x3k 3:x50",
    "3*a/:x3q u*8/:x4k j*2/:x53 9:x5c 6*2/:x5i v:x6d nx:x4j t*28:3vk fps:1y,1y 1:1y,21 1:1y,24",
    "1:1y,1y,21 1:1y,1y,24 1:2b,2c 1:2b,2c d:11g,11i 1:11g,111 1:11g,117 1:11q,11i 1:11g,119",
    "tm*q:1ee9 yv*14:1fcw 4w*10:1fhs 5b*b:1fn4 c*f:1fng g*7:1fnw 8*2:1fo4 1dx*1f:1h1c 2dc*w:1jfk",
    "gww*w:20cg o8y*y:2olc"]

/-- The upper-case mapping beyond ASCII. -/
def upperMap : CharMap := .ofRows upperRuns

/-- The upper-case form of a character. -/
def upperChar (c : Char) : List Char :=
  if c.toNat < 128 then [c.toUpper]
  else
    match upperMap.shifted? c.toNat with
    | some targets => targets.map Char.ofNat
    | none => [c]

/-- A string in upper case. -/
def upper (s : String) : String := String.ofList (s.toList.flatMap upperChar)

end TagTemplate.Text
