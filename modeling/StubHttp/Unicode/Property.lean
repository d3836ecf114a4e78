import StubHttp.Unicode.Script

/-!
# Properties of characters

The properties that a character has or has not, and the lookup of a set of characters by the name of
a property, a category or a script, or by the name and the value of a property.
-/
namespace StubHttp.Unicode.Property

def tables : List (String × String) := [
  ("alpha alphabetic",
    "1t.p 6.p 1b a 4 5.m 1.u 1.cp 4.b e.4 7 1 2e t.h 1.1 2.3 1 6 1.2 1 1.j 1.2a 1.3u 8.4l 1.11 2
    6.14 13.d 1 1.1 1.1 1 8.q 4.3 t.a 5.1j 1.6 e.2t 1.7 4.7 4.2 a.2 2 g.1b d.2s o.w 9.1 4 5.n 2.i
    j.o 7.a 5.n 1.5 8 8.15 a.b 3.6 6.23 1.f 1.2 4.e d.i 1.7 2.1 2.l 1.6 1 3.3 3.7 2.1 2.1 1 8 4.1
    1.4 c.1 a 4.2 1.5 4.1 2.l 1.6 1.1*3 4.4 4.1 2.1 4 7.3 1 h.5 b.2 1.8 1.2 1.l 1.6 1.1 1.4 3.8
    1.2 1.1 3 f.3 l.3 4.2 1.7 2.1 2.l 1.6 1.1 1.4 3.7 2.1 2.1 9.1 4.1 1.4 d g.1 1.5 3.2 1.3 3.1 1
    1.1 3.1 3.2 3.b 4.4 3.2 1.2 3 6 14.c 1.2 1.m 1.f 3.7 1.2 1.2 8.1 1.2 2 2.3 s.3 1.7 1.2 1.m
    1.9 1.4 3.7 1.2 1.2 8.1 6.1 1.3 d.2 c.c 1.2 1.14 2.7 1.2 1.2 1 5.3 7.4 m.5 1.2 1.h 3.n 1.8 1
    2.6 8.5 1 1.7 i.1 d.1l 5.6 6 1f.1 1 1.4 1.n 1 1.i 1.2 2.4 1 6 e.3 w 1r.7 1.z 4.i 4.f 1.z
    1v.1i 1 2.4 g.1r a.3 2.11 1 5 2.16 1.98 1.3 2.6 1 1.3 2.14 1.3 2.w 1.3 2.6 1 1.3 2.e 1.1k 1.3
    2.1u 11.f g.2d 2.5 3.h7 2.g 1.p 5.22 3.a 7.j b.k c.j c.c 1.2 1.1 c.1f 2.i e 4 1v.2g 7.16 5.1x
    a.u 1.b 4.8 n.t 2.4 b.17 4.p 1i.r 4.1q 2.j 1e n.1 b.2 1d.1f 1.e 1.7 1f.15 2.3 a.17 1.a e.1i
    m.2 a.z 2.a 5.16 2.2 15.3 1.5 1.1 3 5.5b j.x b.7p 2.5 2.11 2.5 2.7 1*3 1.u 2.1g 1.6 1 3.2 1.6
    3.3 2.5 4.c 5.2 1.6 38 d g.c 2t 4 2.9 1 3.4 6 1 1 1.3 1.a 2.3 5.4 4 h.14 ml.1f 1ee.6c 6.3 3.1
    c.11 1 5 2.1j 7 g.m 9.6 1.6*7 1.v 1b d1.2 p.8 7.4 2.4 4.2d 6.2 1.2h 1.3 5.16 1.2l h.v 1c.f
    e8.533 1s.h3g 1v.19 2.7g 3.f a.1 k.1a 5.7 3.34 13.8 2.2u 2.1u 2.1 1 1.7 l.j 1.w o.1f c.1v 1
    18.5 3 1.2 a.w 5.y d.s 3.1e 1.b f g.f a.4 1.1i 9.d i.m 3.1w 1 1 o.2 2.f 2.3 b.5 2.5 2.5 9.6
    1.6 1.16 1.d 6.3e l.8mb c.m 4.1c 6is.a5 2.2x 12.6 c.4 5.b 1.c 1.4 1 1.1 1.1 1.2z x.a2 i.1r
    2.1h 14.b 38.4 1.3q 10.p 6.p b.2g 3.5 2.5 2.5 2.2 z.b 1.p 1.i 1.1 1.e 2.d y.3e 1x.1g 7f.s
    3.1c 1b.v d.t 5.16 5.t 2.z 4.7 1.4 16.4d i.z 4.z 4.13 8.1f c.a 1.e 1.6 1.1 1.a 1.e 1.6 1.1
    3.1f c.8m 9.l a.7 o.5 1.15 1.8 1x.5 2 1.17 1.1 3 2.m a.m 9.u 1t.i 1.1 a.l a.p 1y.1j 6.1 1s.3
    1.1 5.7 1.2 1.s 16.s 3.s z.7 1.r r.1h a.l a.i d.h 32.20 1j.1e d.1e d.13 y.r 3 5.m 6y.15 1.1
    3.1 g.2 1j 3.s a 8.l 16.h 1a.k r.m 9.1x 17.4 a.1k 9 d.o n.1e h.3 8.y 3 9.1r 1.3 9.1 a 1 z.h
    1.x 2 6.3 1q.6 1 1.3 1.e 1.9 7.1k n.3 1.7 2.1 2.l 1.6 1.1 1.4 3.7 2.1 2.1 3 6 5.6 s.9 1 2
    1.11 1.9 1 2 1.3 1.1 3 1 18.1t 1.2 1.3 k.2 u.1t 2.1 1 54.1h 2.6 p.5 y.1q 1 3 1n.1h 2 1z.q 2.d
    l.6 55.1k 2v.1r v.7 2 2.7 1.1 1.t 1.1 2.1 2.3 2l.7 2.19 2.5 1 1.1 r.1e 2.9 h.1z 5 i.20 5j.w
    v.8 1.18 1.6 1 1d.t 2.l 1.d 21.6 1.1 1.17 3 1.1 1.2 1 2.1 o.5 1.1 1.10 1.1 1.3 1 93.m 9.g
    1.14 3.2 33 27.pl 2u.32 h.5f 218.2o f.tr h.5 p.32y 5.g6 5a1.1a 1ch.fs 7.u h.26 h.t i.1b g.3
    v.k 5.i c0.18 5v.1r 3k.22 4.1k 7.g 1s.1 1 c.1 e.4qf 8.yd 15.9 6w7.3 1.6 1.1 1.82 f t.2 2 e.3
    8.az 1s4.2y 5.c 3.8 7.9 4 4m9.2c 1.1y 1.1 2 2.1 2.3 1.b 1 1.6 1.1s 1.3 2.7 1.6 1.r 1.3 1.4 1
    3.6 1.9f 2.o 1.o 1.u 1.o 1.u 1.o 1.u 1.o 1.u 1.o 1.7 1f8.u 6.5 5x.6 1.g 2.6 1.1 1.4 5.1p x
    34.18 a.6 g 8x.t i.17 dg.r 6c.t 2 dr.6 1.3 1.1 1.e 1.5g 1n.1v 3 3 xg.3 1.q 1.1 1 2 1.9 1.3 1
    1 6 4 1 1 1.2 1.1 1 2 1*4 1.1 1 2.3 1.6 1.3 1.3 1 1.9 1.g 5.2 1.4 1.g hg.p 6.p 6.p 2uu.wyn
    w.37d 6.65 2.4g1 e.5rk f.h9 1wi.f1 15u.3t6 5.38f"),
  ("lower lowercase",
    "2p.p 1b a 4 10.n 1.7 1*r 1.1 1*7 1.1 1*n 2 1 1.2 2 1 2 3.1 4 2 3.2 2 2 1 1 2 1.1 1 2 3 1 2.1
    2.2 6 2 2 1*7 1.1 1*8 1.1 2 1 3 1*s 1.6 2 2.1 1 4 1*3 1.1w 1.z 7.1 u.4 2o 17 1 3 2.3 i r.y
    1.1 3.2 1*b 1.4 1 2 2.1 1f.1b 1*h 9 1*q 2 1*5 1.1 1*1c 1c.14 287.16 1.3 l4.5 1oi.8 1 39.5b 1t
    1*21 1.8 1*1c 1.8 8.5 a.7 8.7 8.5 a.7 8.7 8.d 2.7 8.7 8.7 8.4 1.1 6 3.2 1.1 8.3 2.1 8.7 a.2
    1.1 3d d g.c 31 3.1 3 r 4 4 2.1 8.3 4 x.f 4 nf.p 1fq.1b 1 3.1 1*3 4 1.1 1.7 3 1*1c 1.1 7 1 4
    c.11 1 5 nwz 1*m j 1*c 1.2 3p 1*5 1.2 1*u 1.9 1 1 2 1*4 4 1 2 1.2 1*a 5 5 1*7 4 1 2 3 1*5 m.2
    1 1.2 mt.16 1.d 6.27 fnk.6 c.4 tl.p y5.13 3s.z 4b.a 1.e 1.6 1.1 cj 2.2 1.15 1.8 zp.1e 3h.l
    27u.v gw0.v k2i.p q.6 1.h q.p q.3 1 1.6 1.a q.p*8 q.r s.o 1.5 q.o 1.5 q.o 1.5 q.o 1.5 q.o 1.5
    1 1f8.9 1.j 6.5 79.1p 1pw.x"),
  ("upper uppercase",
    "1t.p 2t.m 1.6 x 1*r 2 1*7 2 1*m 1.1 1 1 3.1 1 1.1 1.2 2.3 1.1 1.2 3.1 1.1 1 1 1.1 1 2 1.1 1.2
    1 1.1 3 7 2*3 1*7 2 1*8 2 2 1.2 1*t 7.1 1.1 2 1.3 1*4 81 1 3 8 6 1.2 1 1.1 1.g 1.8 z 2.2 3
    1*b 5 2 1.1 2.1e 1c 1*g 9 1*q 1.1 1*6 2 1*1b 2.11 289.11 1 5 k2.2d 1oz 6.16 2.2 8w 1*22 9
    1*1c 9.7 8.5 a.7 8.7 8.5 b 1*3 8.7 20.3 c.3 c.3 c.4 b.3 7a 4 3.2 2.2 2 3.4 6 1 1 1.3 2.3 a.1
    5 q.f j mq.p 1f4.1b 1c 1.2 2 1 1 1.3 1 2 8.2 1*1d 8 1 4 nyl 1*m j 1*d 3r 1*6 3 1*u a 1 1.1
    1*4 4 1 2 1 3 1*9 1.4 1.4 1*7 1.3 1 1.1 3 5 1*3 o h7v.p xx.13 3s.z 4c.a 1.e 1.6 1.1 1d6.1e
    4d.l 27u.v gw0.v k2o.p q.p q.p q 1.1 2 2.1 2.3 1.7 q.p q.1 1.3 2.7 1.6 r.1 1.3 1.4 1 3.6 r.p
    q.p*5 u.o x.o*4 x 3ed.x 1la.p 6.p 6.p"),
  ("wspace whitespace space",
    "9.4 i 2s q 4bj 1vj.a t.1 5 1b 334"),
  ("ahex asciihexdigit",
    "1c.9 7.5 q.5"),
  ("bidic bidicontrol",
    "17g 54h.1 q.4 1j.3"),
  ("ci caseignorable",
    "13 6 b z 1 1z 4 1 4 2.1 dz.5b 4.1 4 9.1 1 6z.6 5r 5 1d.18 1 1.1 1.1 1 18 b.5 a.a 1 z a.k g
    2t.7 1.9 1.3 x 1 u.q 2j.a 1m.a 4 2 o.n 17.2 18 7.1 5.8 15.1l 1j 1 4.7 4 3.6 a.1 d f 1m 4.3 8
    k.1 q 2.1 1l 4.1 4.1 2.2 3 u.1 3 b.1 1l 4.4 1.1 4 k.1 m.5 1 1m 2 1.3 8 7.1 b.1 u 1p c 1e 3 1j
    1.2 5.2 1.3 7.1 b.1 t 1m 2 6 5.1 k.1 s.1 1l.1 4.3 8 k.1 t 20 7.2 1 2i 2.6 b.8 2q 2.8 9 1.6
    21.1 r 1 1 1j.d 1.4 1.1 5.a 1.z 9 2u.3 1.5 1.1 2.1 p.1 4.2 g.3 d 2.1 6 f 2m gw.2 qa.2 t.1 u.1
    u.1 1s.1 1.6 8 2.a 3 5 19.4 1f 1t.1 y 3a.2 4.1 9 6.2 63.1 2 1m 1.6 1 1 2.7 6.9 2 13 8.u 1d.3
    1c 1.4 1 5 14.8 c.1 w.3 2.1 1.2 1k 1.1 3 1.2 1m.7 2.1 1s.5 2a.2 1.c 1.6 4 6 3.1 1e.1q d y.2s
    cd 1.2 b.2 d.2 d.2 d.1 c.4 8.1 a 2 2.4 1d.4 1.9 1 d g.c 1f.w 2a3.1 35.2 3h f 2o.v 1b d1 10.3
    3.4 5 2l.5 2l.2 lxy yq.5 7i 2q.3 1.9 1 s.3 28.1 e.x 26 n.2 2v.2 3.1 8 3 4 p.1 5 47.1 q.h d
    12.7 p.a 1a.2 1c 2.3 2.1 h l.1 1u.5 2.1 2.1 c 8 z b 1f 1.2 2.1 5.1 1 r e.1 5.1 1 2s.4 9.2 3d
    2 4 fn4 43.g fx.f 3 c.f y 2 4p 7 6 b z 1 1b 19.1 1v l.2 e9 6a 45.4 sl.5 1.15 1.8 g6.2 1.1 5.3
    14.2 4 4l.1 fx.3 12 q.4 1 8r.1 27.3 1y.a 1d.3 3f 1i.e 15 2.1 a.2 1d.3 2.1 2 4 a 1e.2 10.4 1.7
    1q c.1 1g.8 a.3 2 2n.2 2 1.1 6 2 4d 3.7 l.1 1l.1 3 11.6 3.4 1y.5 d 1 1 e.1 2d.7 2.2 1 n 2c.5
    1 4.1 1.1 6m.3 6.1 1.1 r.1 2d.7 2 1.1 2y 1 2.5 1 2t 1 2.3 1.4 77.8 1.1 74.1 1 4 40.3 2.1 4
    w.9 14.5 2.3 8 9.5 2.2 1a.c 1.1 ba.6 1.5 1 2a.l 2.6 1.1 1.1 3e.5 3 1.1 1.6 1 20.1 3 1 9n.1
    b.1 1g.4 5 1 n 445.g 6.e 8ug.b 3.2 1xc.4 1n.6 9.3 e4.2 14.1 de 1r.g 1s.1 1.1 cnf.3 1.6 1.1
    2hq.1 1.3 3mk.19 2.m f4.2 9.f 2.6 u.3 44.2 1iz.1i 4.1d 8 e m.4 1.e 11s.6 1.g 2.6 1.1 1.4 5.1p
    x 4g.d a8 1p.3 e3.4 72.1 kg.6 31.7 23z.4 gx6p u.2n 3k.6n"),
  ("cased",
    "1t.p 6.p 1b a 4 5.m 1.u 1.5e 1.3 4.5r 1.z 7.1 u.4 2o 16.3 2.1 2.3 1 6 1.2 1 1.j 1.2a 1.3u
    8.4l 1.11 9.14 26v.11 1 5 2.16 1.3 io.2d 2.5 1oi.a 5.16 2.2 1s.5b 1s.7p 2.5 2.11 2.5 2.7 1*3
    1.u 2.1g 1.6 1 3.2 1.6 3.3 2.5 4.c 5.2 1.6 38 d g.c 2t 4 2.9 1 3.4 6 1 1 1.3 1.5 4 2.3 5.4 4
    h.v 3.1 mp.1f 1ee.6c 6.3 3.1 c.11 1 5 nwy.19 i.t 3o.2t 3.3 1.1p 2.1 1 1.7 l.4 1.2 mt.16 1.d
    6.27 fnk.6 c.4 sp.p 6.p x1.27 2o.z 4.z 38.a 1.e 1.6 1.1 1.a 1.e 1.6 1.1 cj 2.2 1.15 1.8 xx.1e
    d.1e 2l.l a.l 26y.1r gv4.1r k1s.2c 1.1y 1.1 2 2.1 2.3 1.b 1 1.6 1.1s 1.3 2.7 1.6 1.r 1.3 1.4
    1 3.6 1.9f 2.o 1.o 1.u 1.o 1.u 1.o 1.u 1.o 1.u 1.o 1.7 1f8.9 1.j 6.5 79.1p 1oy.1v 1kc.p 6.p
    6.p"),
  ("cwcf changeswhencasefolded",
    "1t.p 2i a.m 1.7 w 1*r 2 1*7 1.1 1*m 1.1 1*3 1.1 1 1.1 1.2 2.3 1.1 1.2 3.1 1.1 1 1 1.1 1 2 1.1
    1.2 1 1.1 3 7.1 1.1 1.1 1*8 2 1*8 2.1 1 1.2 1*t 7.1 1.1 2 1.3 1*4 6u 16 1 3 8 6 1.2 1 1.1 1.g
    1.8 m c.2 3.1 1*c 1.1 2.1 1 1.1 2.1e 1c 1*g 9 1*q 1.1 1*6 2 1*1b 2.11 1c 26w.11 1 5 mi.5
    1oi.9 6.16 2.2 8w 1*22 5.1 2 1*1c 9.7 8.5 a.7 8.7 8.5 b 1*3 8.7 g.1b 2.2 2.5 5.2 2.5 b.3 c.4
    5.2 2.5 89 3.1 6 19.f j mq.p 1f4.1b 1c 1.2 2 1 1 1.3 1 2 8.2 1*1d 8 1 4 nyl 1*m j 1*d 3r 1*6
    3 1*u a 1 1.1 1*4 4 1 2 1 3 1*9 1.4 1.4 1*7 1.3 1 1.1 3 5 1*3 o oq.27 fnk.6 c.4 sp.p xx.13
    3s.z 4c.a 1.e 1.6 1.1 1d6.1e 4d.l 27u.v gw0.v o80.x"),
  ("cwcm changeswhencasemapped",
    "1t.p 6.p 1m a.m 1.u 1.1r 1.2b 1.r 2.d 2.1 1 4.2k 1.h 6.q 1.1 1 1.1 3.1 1.3 1.4 2 1.1 2 7 2
    1.1 3.5 5 a.1 4m 16.3 2.1 3.2 1 6 1.2 1 1.j 1.1a 3.w 1.4 1.3o 8.4l 1.11 a.12 26w.11 1 5 2.16
    2.2 io.2d 2.5 1oi.a 5.16 2.2 55 3 g 35.4b 2 1.39 2.5 2.11 2.5 2.7 1*3 1.u 2.1g 1.6 1 3.2 1.6
    3.3 2.5 4.c 5.2 1.6 89 3.1 6 r h.v 3.1 mp.1f 1ee.34 1.1 1.1 7.2t 7.3 3.1 c.11 1 5 nwy.19 i.r
    3q.d 2.1p 9.e 3.2 2.4 1.o 1.t 2.1 4.6 o.1 nw s.27 fnk.6 c.4 sp.p 6.p x1.27 2o.z 4.z 38.a 1.e
    1.6 1.1 1.a 1.e 1.6 1.1 1c3.1e d.1e 2l.l a.l 26y.1r gv4.1r o74.1v"),
  ("cwl changeswhenlowercased",
    "1t.p 2t.m 1.6 x 1*r 2 1*7 2 1*m 1.1 1 1 3.1 1 1.1 1.2 2.3 1.1 1.2 3.1 1.1 1 1 1.1 1 2 1.1 1.2
    1 1.1 3 7.1 1.1 1.1 1*8 2 1*8 2.1 1 1.2 1*t 7.1 1.1 2 1.3 1*4 81 1 3 8 6 1.2 1 1.1 1.g 1.8 z
    8 1*b 5 2 1.1 2.1e 1c 1*g 9 1*q 1.1 1*6 2 1*1b 2.11 289.11 1 5 k2.2d 1oz 6.16 2.2 8w 1*22 9
    1*1c 9.7 8.5 a.7 8.7 8.5 b 1*3 8.7 o.7 8.7 8.7 8.4 b.4 b.3 c.4 b.4 89 3.1 6 19.f j mq.p
    1f4.1b 1c 1.2 2 1 1 1.3 1 2 8.2 1*1d 8 1 4 nyl 1*m j 1*d 3r 1*6 3 1*u a 1 1.1 1*4 4 1 2 1 3
    1*9 1.4 1.4 1*7 1.3 1 1.1 3 5 1*3 o h7v.p xx.13 3s.z 4c.a 1.e 1.6 1.1 1d6.1e 4d.l 27u.v gw0.v
    o80.x"),
  ("cwt changeswhentitlecased",
    "2p.p 1m 15.n 1.7 1*s 2 1*6 1.1 1*n 2 1 1.2 2 1 2 3 5 2 3.2 2 2 1 1 2 4 2 3 1 2 3 1 4 1.1 1.1
    1*8 1.1 1*8 1.2 1 1 3 1*j 3 1*8 8 2.1 1 4 1*3 1.5 1.1 1 1.1 3.1 1.3 1.4 2 1.1 2 7 2 1.1 3.5 5
    a.1 4m 17 1 3 3.2 i r.y 1.1 3.2 1*b 1.4 1 2 2 1g.1b 1*h 9 1*q 2 1*5 1.1 1*1c 1d.12 2uo.5
    1oi.8 1 6m 3 g 36 1*21 1.6 5 1*1a 1.8 8.5 a.7 8.7 8.5 a.7 8.7 8.d 2.7 8.7 8.7 8.4 1.1 6 3.2
    1.1 8.3 2.1 8.7 a.2 1.1 9i x.f 4 nf.p 1fq.1b 1 3.1 1*3 6 2 a 1*1d 8 1 4 c.11 1 5 nwz 1*m j
    1*d 3r 1*6 3 1*u a 1 2 1*4 4 4 1.1 2 1*9 b 1*7 4 1 2 3 5 1 1 q nw s.27 fnk.6 c.4 tl.p y5.13
    3s.z 4b.a 1.e 1.6 1.1 1dv.1e 3h.l 27u.v gw0.v o82.x"),
  ("cwu changeswhenuppercased",
    "2p.p 1m 15.n 1.7 1*s 2 1*6 1.1 1*n 2 1 1.2 2 1 2 3 5 2 3.2 2 2 1 1 2 4 2 3 1 2 3 1 5.1 1.1
    1.1 1*7 1.1 1*8 1.1 1.1 1 3 1*j 3 1*8 8 2.1 1 4 1*3 1.5 1.1 1 1.1 3.1 1.3 1.4 2 1.1 2 7 2 1.1
    3.5 5 a.1 4m 17 1 3 3.2 i r.y 1.1 3.2 1*b 1.4 1 2 2 1g.1b 1*h 9 1*q 2 1*5 1.1 1*1c 1d.12
    288.16 2.2 l4.5 1oi.8 1 6m 3 g 36 1*21 1.6 5 1*1a 1.8 8.5 a.7 8.7 8.5 a.7 8.7 8.d 2.1g 1.1 4
    1 3.2 1.1 4 3.3 2.1 8.7 a.2 1.1 4 9d x.f 4 nf.p 1fq.1b 1 3.1 1*3 6 2 a 1*1d 8 1 4 c.11 1 5
    nwz 1*m j 1*d 3r 1*6 3 1*u a 1 2 1*4 4 4 1.1 2 1*9 b 1*7 4 1 2 3 5 1 1 q nw s.27 fnk.6 c.4
    tl.p y5.13 3s.z 4b.a 1.e 1.6 1.1 1dv.1e 3h.l 27u.v gw0.v o82.x"),
  ("dash",
    "19 124 1f 2td sl 1l5.5 1p 13 f au 2dg 2 v.1 4 s ce j 33 14ls.1 11 a 4p 2u8 8u"),
  ("di defaultignorablecodepoint",
    "4t ip jw 282.1 18z.1 2d.4 1kr.4 q.4 1d.f 3ck 14ez.f 6n 4g 27.8 119j.3 43z.7 h405.35r"),
  ("dep deprecated",
    "95 10p 1s3 1 1m1.1 1qd.5 jd.1 jh06"),
  ("dia diacritic",
    "2m 1 1z 6 4 2.1 dz.4e 1.7 5.5 h.1 4 9.1 71.4 5t 1j.g 1.q 1 1.1 1 3q.7 4.1 3q.1 4.1 3.2 1v.q
    2j.a 1m.a y.1 3i.7 15.9 g.r 1p g 3.3 s 22 g 32 g 32 g 1b.2 1o g 7 3b 32 g 32 g 31.1 g 3g 33
    c.5 1 2z d.4 23.1 r 1 1 4.1 1u.2 1.1 1q 34 1.1 14.1 4.4 p.6 1 a.1 jl.2 qc.1 u 44.a 9 9n.2 84
    k.7 2 1c.e 2.a 2w f 12.8 1i.1 1m b.1 1u.1 1s.5 2a.o 4 6 2.2 1e.1q 2h.b 11.a cd 1.2 b.2 d.2
    d.2 d.1 2k0.2 8t e2.5 2x.3 2n n76 c.1 1 s.1 2a.1 e.x 2u.2 31.1 c 11 47 r.h 1l.3 10 2n c 10
    45.2 1t.3 1f 2s.4 9.2 3k.1 fn4 ld.f 7i 1 1b 19.1 1v l8 wv.5 1.15 1.8 hp.2 4 4l.1 fv.5 12 q.4
    b3.2 1y.a 1d.3 5c 15 20.1 3c.1 1q 24 9.2 2w.1 4y.1 28.1 g o.6 3.4 2h.2 1.1 d.1 2n 3 3f.1 6z.1
    3i 3a.1 37 7h.1 76.1 4 4c 2b i 29 bp 76 1.1 29 bt.1 n 44s.e 8ux 1xc.4 1n.6 fo.1 f6.g 28.1
    cn2.3 1.6 1.1 64h.19 2.m f4.2 3.5 8.7 2.6 u.3 2v6.1p 5e.6 af 1p.3 la.1 kg.6 31.2 1.2"),
  ("emoji",
    "z 6 5.9 33 4 68d c 60 m 2i.5 f.1 a7.1 c 4m p.a 4.2 5j 6f.1 a 9 1m.3 1.4 9 2 2.1 2 4 2 1.1 2 3
    3.1 8.2 5 1 5.b b.1 2 1.1 1 i 2.1 i.5 1 1.1 3.1 5 2.1 4.1 b.1 5.1 2 5.1 1 1.1 k.1 5.5 1.3 2 4
    2 2.5 1 2 1 1 6 3 6 a.1 f 2 4 1 4.2 1 b.1 1c.2 9 e e ac.1 cv.2 j.1 1f 4 yi c gp 1 2fze 5m
    4g.1 c.1 e 2.9 23.p 1.1 n k 2.8 l.1 4u.x 2.33 2.1 1.2 2.2a 2.2 1.7a 1.1q b.5 1.n 7.1 2.7 c
    2.3 2 4.1 d.1 2 8.1 9 5.2 c.2 8.2 2 1 4 6 3 6.2d 1c.1x 5.7 2.2 4.9 3 1.1 3 2.9 6b.b 4 7v.1a
    1.9 1.54 34.c 3.9 5.1j 7.e 2.a 6.8"),
  ("ecomp emojicomponent",
    "z 6 5.9 6ab 5x 17or 1c5y.p e3.4 14g.3 gw30.2n"),
  ("emod emojimodifier",
    "2qrf.4"),
  ("ebase emojimodifierbase",
    "7j1 63 g.3 2iyf 1o.2 2 2.2 39.1 2.a l.i 3 4.2 1.2 7 1 o 5l.1 4 l 4.1 4u.2 3.4 2b g.2 9 b fz 2
    8.7 6 9.9 2.2 1k 1p.1 1.1 1 h.2 1.c 6d.2 16.8"),
  ("epres emojipresentation",
    "6xm.1 5p.3 3 2 eh.1 l.1 1e.b 17 j d 8.1 h.1 5.1 8 5 l 7.1 1 4 2 7 4.1 s z 1 4.2 1 1p.2 o e
    nv.1 1f 4 2hf2 5m 5a 2.9 23.p 1 o k 2.4 1.2 l.1 4u.w c.8 1.1x 1.l c.16 4.4 c.g 3 3.1y 1 1.56
    2.1q d.3 1.n i q.1 d 2e.2c 1c.1x 6 3.2 2.2 4.3 b.1 7.8 6b.b 4 7v.1a 1.9 1.54 34.c 3.9 5.1j
    7.e 2.a 6.8"),
  ("extpict extendedpictographic",
    "4p 4 68d c 60 m 2i.5 f.1 a7.1 c 2n 1y p.a 4.2 5j 6f.1 a 9 1m.3 1.5 1.b 1.35 a.39 2.a 1 1 6 3
    6 a.1 f 2 4 1 4.2 1 b.4 19.2 9 e e ac.1 cv.2 j.1 1f 4 yi c gp 1 2fza.73 d.2 v 1o.5 c.1 e 2.9
    i.1k r.e a k 2.8 1.3 9.c1 5.8t 8.7d 1c.3j 38.b 2d.16 c.3 1k.7 a.5 14.7 u.29 c.1a 1.9 1.c8
    74.sd"),
  ("ext extender",
    "53 ew.1 oe c9 hi 3t 2h kw 3j 1tv 1k gz b2 1w 3ux 17.4 2v.1 2l.2 lxy 16e qq m 3t 30 l.1 gor
    1lc.1 157 r 4 xz 85 38.1 du.2 y7 fxl.1 ws.1 1 me0.1 xd no.2"),
  ("grbase graphemebase",
    "w.2m x.c 1.gh 34.7 2.5 4.6 1 1.j 1.67 7.4l 1.11 2.1d 2.2 1a 1 2 2 9.q 4.5 h.9 b 1.19 l.f 1.2s
    8 6.1 2 4.v 2 1.t t.2g b e.16 9.6 3.n 4 9 3 7.e 1.o 5 1.a 5.u h.15 1l.1i 1 1.3 8.3 1.2 7.9
    2.s 1.1 1.7 2.1 2.l 1.6 1 3.3 3 1.1 6.1 2.1 1 d.1 1.2 4.n 5 1.5 4.1 2.l 1.6 1.1*3 4.2 o.3 1
    7.9 2.2 1 c 1.8 1.2 1.l 1.6 1.1 1.4 3.3 8 1.1 3 f.1 4.b 7 8.1 1.7 2.1 2.l 1.6 1.1 1.4 3 2 6.1
    2.1 f.1 1.2 4.h b 1.5 3.2 1.3 3.1 1 1.1 3.1 3.2 3.b 5 1.1 3.2 1.2 3 l.k 6.2 1.7 1.2 1.m 1.f 3
    3.3 j.2 2 2.1 4.9 7.9 1.a 1.2 1.m 1.9 1.4 3.1 2 1.1 o.1 1.1 4.9 1.2 e.a 1.2 1.14 2 1.1 5.2
    1.2 1.1 4.2 1.9 4.p 2.1 1.h 3.n 1.8 1 2.6 9.1 6.6 7.9 2.2 c.1b 1.1 b.7 8.c 11.1 1 1.4 1.n 1
    1.9 1.1 9 2.4 1 9.9 2.3 w.n 2.q 1 1 1.d 1.z i 5 2.4 1d.7 1.5 1.c 11.18 4 6 2.1 2.o 2.3 3.f
    4.c 1.1 2.5 1.e 1.13 1 5 2.ag 1.3 2.6 1 1.3 2.14 1.3 2.w 1.3 2.6 1 1.3 2.e 1.1k 1.3 2.1u 5.s
    3.p 6.2d 2.5 2.ik 3.2g 7.h d.i 3.1 9.h e.c 1.2 f.1f 2 7.7 1.1 b.8 3.9 6.9 6.a 5.9 6.2g 7.4
    2.x 1 5.1x a.u 4.3 2.2 4.1 1.5 7 3.15 2.4 b.17 4.p 6.a 3.1k 2.1 3.1j 1 9 1.1 8.5 d.9 6.9 6.d
    2e.1b a.3 3.7 1.s 9.b 2.v 4.1 6.1j 1 2.2 1 d.1b 8.1 5.e 3.1p 5.16 2.a b d 7.3 1.5 1.2 2 5.5b
    1s.7p 2.5 2.11 2.5 2.7 1*3 1.u 2.1g 1.e 1.d 2.5 1.i 2.2 1.8 1.a 5.n 7.1c g.1 2.q 1.c 3.w
    1r.3v 4.ih m.a l.1eb 2.v 1.9j 3.1 5.18 1 5 2.1j 7.1 f.m 9.6 1.6*7 x.2l y.p 1.2g c.5x q.1l 6.f
    1.2d 4.2s 5.16 1.2l 1.2d 9.1b 1.mlo 3.1i 9.9n k.1a 4 a.v 2.27 2.5 8.5p 2.1 1 1.7 l.f 1.2 1.3
    1.o 2.4 4.9 6.1j 8.1v a.b o.c 1.11 8.o b c.t 6.1b 1.1 4.1 2.1 1.c 1.a 4.6 1.o 1.14 6.1 2.1
    b.2 1.7 1 2.9 2.v 1.1e 1 3.1 2.4 2 1 o.g 2.7 b.5 2.5 2.5 9.6 1.6 1.1n 4.38 1.1 1.3 3.9 6.8mb
    c.m 4.1c 6is.a5 2.2x 12.6 c.4 5 1.n 1.4 1 1.1 1.1 1.3g g.cc 2.1h 7 w.f g.9 m.y 1.i 1.3 4.4
    1.3q 4.4c 2.u 3.5 2.5 2.5 2.2 3.6 1.6 d.1 2.b 1.p 1.i 1.1 1.e 2.d y.3e 5.2 4.18 3.2f 1.c 3
    1b.18 3n.s 3.1c g.q 4.z 9.t 5.11 a.t 1.10 4.d 16.4d 2.9 6.z 4.z 4.13 8.1f b.b 1.e 1.6 1.1 1.a
    1.e 1.6 1.1 3.1f c.8m 9.l a.7 o.5 1.15 1.8 1x.5 2 1.17 1.1 3 2.m 1.1z 8.8 1c.i 1.1 5.w 3.q 5
    1s.1j 4.j 2.1a f.3 1.2 1.s a.8 7.8 7.1r w.10 6.b 9.1h 3.s 2.q 5.p 7.3 c.6 28.20 1j.1e d.1e
    7.15 c.9 6.11 8.n 8.1 5s.u 1.15 3 2.1 g.2 1n.13 8.l b.8 m.h 4.3 12.r k.m 9 1.1h f.6 4.t 1.1 2
    c.1c 4.1 2.1 1.3 e.o 7.9 9.z 5 9.h 8.y 1.2 b.1f 9 1.7 4.1 1.f 1.j b.h 1.r 3.1 4.5 1.1 1r.6 1
    1.3 1.e 1.a 6.1a 1.2 d.9 8.1 1.7 2.1 2.l 1.6 1.1 1.4 3 1 1.3 2.1 2.1 3 c.6 s.9 1 2 1.11 1 1.1
    f 1.1 3 1.2 1.1 13.1j 8.1 3 1.k 1 1.2 u.1b 1.1 6 1.1 1 2 2.3 8.9 4m.1a 1.1 6.3 2 2.q 10.1e
    8.1 1 2.3 b.9 6.c j.16 1 1.1 8.1 6.9 6.j s.q 3 1.1 4 9.m 55.1a 9 2 2s.2a c.7 2 2.7 1.1 1.n
    1.4 1.1 6.3 1.2 9.9 1y.7 2.15 8.3 1.3 r a.13 6.1 4.7 9 6.1 3.19 d 2.8 d.20 7.9 52.x e.9 6.8
    1.11 e 1.5 a.s 3.v p 7 2 23.6 1.1 1.11 l 9.9 6.5 1.1 1.10 4.1 1 1 7.9 8m.i 2.3 9.e 1.z 8.1
    3.m 2e f.1d d.pm 2u.32 1.4 b.5f 218.2q d.tr h.5 p.32y 5.g6 5a1.t c.2 3.9 1c6.fs 7.u 1.9 4.28
    1.9 6.t 7 a.1b 7.e a.9 1.6 1.k 5.i c0.1l 5i.2i 2t.22 5.1j b.c 1s.3 s.4qf 8.yd 15.9 6w7.3 1.6
    1.1 1.82 f t.2 2 e.3 8.az 1s4.2y 5.c 3.8 7.9 2 2 31c.6x 6.c3 4c.37 1o.6t a.12 2.1n 5.2 m.1
    7.t 4.1o l.1t 3 3e.j c.j c.2e 9.o 3r.2c 1.1y 1.1 2 2.1 2.3 1.b 1 1.6 1.1s 1.3 2.7 1.6 1.r 1.3
    1.4 1 3.6 1.9f 2.83 2.fl 1j.3 1e.7 1.d 1.6 vo.u 6.5 79.1p 42.18 a.6 2.9 4.1 8w.t i.17 4.9 5
    cw.r 4.9 5y.t 2.a 4 dc.6 1.3 1.1 1.e 1.5g 2.8 1c.1v 7 4.9 4.1 lt.1v 24.1o 5e.3 1.q 1.1 1 2
    1.9 1.3 1 1 6 4 1 1 1.2 1.1 1 2 1*4 1.1 1 2.3 1.6 1.3 1.3 1 1.9 1.g 5.2 1.4 1.g 1g.1 7i.17
    4.2r c.e 2.e 1.e 1.10 a.4t 1k.s d.17 4.8 7.1 e.5 4a.rb 4.g 3.c 3.3a 4.2m 6.b 4 f.b 4.1j 8.9
    6.13 8.t 2.b 4.1 1q.9f c.d 2.c 3.9 5.1j 7.e 2.a 6.8 7.42 1.2t sm.wyn w.37d 6.65 2.4g1 e.5rk
    f.h9 1wi.f1 15u.3t6 5.38f"),
  ("grext graphemeextend",
    "lc.33 7n.6 7b.18 1 1.1 1.1 1 20.a 1c.k g 2t.6 2.5 2.1 1.3 z u.q 2j.a 1m.8 9 o.3 1.8 1.2 1.4
    17.2 1n.8 16.n 1.v 1j 1 4.7 4 3.6 a.1 t 1m 1 2.3 8 9 a.1 q 2.1 1l 4.1 4.1 2.2 3 u.1 3 b.1 1l
    4.4 1.1 4 k.1 m.5 1 1m 1.1 1.3 8 7.2 a.1 u 1n 1 c 9 14 3 1j 1.2 5.2 1.3 7.1 b.1 t 1m 2.1 1
    3.2 1.3 7.1 b.1 s.1 1l.1 1 2.3 8 9 a.1 t 20 4 2.2 1 8 29 2.6 c.7 2q 2.8 b.6 21.1 r 1 1 1j.d
    1.4 1.1 5.a 1.z 9 2u.3 1.5 1.1 2.1 p.1 4.2 g.3 d 2.1 6 f jj.2 qa.3 s.2 t.1 u.1 1s.1 1.6 8 2.a
    9 19.2 1 39.1 y 3a.2 4.1 9 6.2 63.1 2 1m 1.6 1 1 2.7 6.9 2 1c.u 1d.3 1c.9 4.2 12.8 c.1 w.3
    2.5 1k 1.1 3 1.4 1k.7 2.1 48.2 1.c 1.6 4 6 3.1 5i.1r ek 5f.w 2da.2 3x 2o.v fe.5 2x.1 n9w.3
    1.9 w.1 28.1 7k 3 4 p.1 5 47.1 q.h d 12.7 p.a 1 18.2 1c 2.3 2.1 2 10 1v.5 2.1 2.1 c 8 1b 1f
    1.2 2.1 5.1 1 16.1 8 6m 2 4 fn4 kh.f g.f a6.1 gt 6a 45.4 1ae.2 1.1 5.3 14.2 4 4l.1 fx.3 1t.4
    8t.1 27.3 1y.a 1d.3 3f 1i.e 15 2.1 a.2 1d.3 2.1 7 1p.2 10.4 1.7 1q c.1 1g.8 1 8.3 2 2n.2 2.3
    6 2 4d 3.7 l.1 1l.1 1 1 c 9 e.6 3.4 1v 2.5 1 2 1.2 4.2 1 e.1 2d.7 2.2 1 n 29 2.5 1 2 1.1 1.1
    6j 2.3 6.1 1.1 r.1 2d.7 2 1.1 2y 1 2.7 2t 1 2.3 1.4 77.8 1.1 6t a.3 4 40.3 2.1 4 w.9 14.5 2.3
    8 9.5 2.2 1a.c 1.1 ba.6 1.5 1 2a.l 2.6 1.1 1.1 3e.5 3 1.1 1.6 1 20.1 3 1 9n.1 b.1 1g.4 5.2 n
    44l 6.e 8ug.b 3.2 1xc.4 1n.6 t4 1r.3 29 b.1 f57.1 3mp.19 2.m f2.4 3.5 8.7 2.6 u.3 44.2 1iz.1i
    4.1d 8 e m.4 1.e 11s.6 1.g 2.6 1.1 1.4 2s 4g.6 af 1p.3 e4.3 72.1 kg.6 31.6 gzbp.2n 3k.6n"),
  ("hex hexdigit",
    "1c.9 7.5 q.5 1eax.9 7.5 q.5"),
  ("idsb idsbinaryoperator",
    "9gw.1 2.9 dt"),
  ("idst idstrinaryoperator",
    "9gy.1"),
  ("idc idcontinue",
    "1c.9 7.p 4 1.p 1b a 1 2 5.m 1.u 1.cp 4.b e.4 7 1 h.38 1.1 2.3 1 6.4 1 1.j 1.2a 1.3u 1.4 2.4l
    1.11 2 6.14 8.18 1 1.1 1.1 1 8.q 4.3 t.a 5.21 4.2t 1.7 2.9 1.i 2 g.1m 2.2s e.1h 4 2 2.19 i.r
    4.a 5.n 1.5 8.22 1.3k 2.9 1.i 1.7 2.1 2.l 1.6 1 3.3 2.8 2.1 2.3 8 4.1 1.4 2.b a 1 2.2 1.5 4.1
    2.l 1.6 1.1*3 2 1.4 4.1 2.2 3 7.3 1 7.f b.2 1.8 1.2 1.l 1.6 1.1 1.4 2.9 1.2 1.2 2 f.3 2.9 9.6
    1.2 1.7 2.1 2.l 1.6 1.1 1.4 2.8 2.1 2.2 7.2 4.1 1.4 2.9 1 g.1 1.5 3.2 1.3 3.1 1 1.1 3.1 3.2
    3.b 4.4 3.2 1.3 2 6 e.9 g.c 1.2 1.m 1.f 2.8 1.2 1.3 7.1 1.2 2 2.3 2.9 g.3 1.7 1.2 1.m 1.9 1.4
    2.8 1.2 1.3 7.1 6.1 1.3 2.9 1.2 c.c 1.2 1.1e 1.2 1.4 5.3 7.4 2.9 a.5 1.2 1.h 3.n 1.8 1 2.6 3
    4.5 1 1.7 6.9 2.1 d.1l 5.e 1.9 13.1 1 1.4 1.n 1 1.m 2.4 1 1.6 1.9 2.3 w n.1 6.9 b 1 1 4.9 1.z
    4.j 1.h 1.z 9 1l.21 6.25 2.11 1 5 2.16 1.98 1.3 2.6 1 1.3 2.14 1.3 2.w 1.3 2.6 1 1.3 2.e 1.1k
    1.3 2.1u 2.2 9.8 e.f g.2d 2.5 3.h7 2.g 1.p 5.22 3.a 7.l 9.l b.j c.c 1.2 1.1 c.2b 3 4.1 2.9
    x.2 1.a 6.2g 7.16 5.1x a.u 1.b 4.b a.13 2.4 b.17 4.p 6.a 11.r 4.1q 1.s 2.a 6.9 d 8.d 1.f
    1d.24 3.9 h.8 c.37 c.1j 8.9 3.1c 2.a 5.16 2.2 g.2 1.12 5.et 2.5 2.11 2.5 2.7 1*3 1.u 2.1g 1.6
    1 3.2 1.6 3.3 2.5 4.c 5.2 1.6 f.1 1d.1 j s d g.c 1f.c 4 3.b h 4 2.9 1 2.5 6 1 1 1.f 2.3 5.4 4
    h.14 22f.6c 6.8 c.11 1 5 2.1j 7 f.n 9.6 1.6*7 1.v ed.2 p.e 1.4 2.4 4.2d 2.6 1.2m 5.16 1.2l
    h.v 1c.f e8.533 1s.h3g 1v.19 2.7g 3.r k.1b 4.9 1.36 11.8 2.2u 2.1u 2.1 1 1.7 l.1h 4 j.1f c.1x
    a.9 6.n 3 1.1c 2.z c.s 3.1s e.a 6.u 1.1i 9.d 2.9 6.m 3.20 o.2 2.f 2.4 a.5 2.5 2.5 9.6 1.6
    1.16 1.d 6.3e 1.1 2.9 6.8mb c.m 4.1c 6is.a5 2.2x 12.6 c.4 5.b 1.c 1.4 1 1.1 1.1 1.2z x.a2
    i.1r 2.1h 14.b 4.f g.f 3.1 o.2 w.4 1.3q j.9 7.p 4 1.p a.2h 3.5 2.5 2.5 2.2 z.b 1.p 1.i 1.1
    1.e 2.d y.3e 1x.1g 3s 3m.s 3.1c f v.v d.t 5.16 5.t 2.z 4.7 1.4 16.4d 2.9 6.z 4.z 4.13 8.1f
    c.a 1.e 1.6 1.1 1.a 1.e 1.6 1.1 3.1f c.8m 9.l a.7 o.5 1.15 1.8 1x.5 2 1.17 1.1 3 2.m a.m 9.u
    1t.i 1.1 a.l a.p 1y.1j 6.1 1s.3 1.1 5.7 1.2 1.s 2.2 4 w.s 3.s z.7 1.t p.1h a.l a.i d.h 32.20
    1j.1e d.1e d.13 8.9 6.11 3.4 1.m 6y.15 1.1 3.1 g.2 1j.w a 8.w v.l 16.k r.m 9.1y v.f 9.1n 7
    d.o 7.9 6.1g 1.9 4.3 8.z 2 9.1w 4.3 1.c 1 z.h 1.10 6.3 1q.6 1 1.3 1.e 1.9 7.1m 5.9 6.3 1.7
    2.1 2.l 1.6 1.1 1.4 1.9 2.1 2.2 2 6 5.6 2.6 3.4 b.9 1 2 1.11 1.9 1 2 1.3 1.7 d.1 t.22 5.9 4.3
    u.1x 1 8.9 4m.1h 2.8 n.5 y.1s 3 b.9 12.1k 7.9 6.j s.q 2.e 4.9 6.6 55.1m 2t.21 l.7 2 2.7 1.1
    1.t 1.1 2.8 c.9 1y.7 2.19 2.7 1.1 r.1q 8 8.21 3 i.20 5j.w f.9 6.8 1.18 1.8 f.9 o.t 2.l 1.d
    21.6 1.1 1.17 3 1.1 1.8 8.9 6.5 1.1 1.10 1.1 1.5 7.9 8m.m 9.g 1.14 3.4 d.a 2d 27.pl 2u.32
    h.5f 218.2o f.tr g.l a.32y 5.g6 5a1.1l 1c6.fs 7.u 1.9 6.26 1.9 6.t 2.4 b.1i 9.3 c.9 9.k 5.i
    c0.18 3.9 5i.1r 3k.22 4.1k 7.g 1s.1 1.1 b.1 e.4qf 8.yd 15.9 6w7.3 1.6 1.1 1.82 f t.2 2 e.3
    8.az 1s4.2y 5.c 3.8 7.9 3.1 381.9 ee.19 2.m f2.4 3.5 8.7 2.6 u.3 44.2 cb.2c 1.1y 1.1 2 2.1
    2.3 1.b 1 1.6 1.1s 1.3 2.7 1.6 1.r 1.3 1.4 1 3.6 1.9f 2.o 1.o 1.u 1.o 1.u 1.o 1.u 1.o 1.u 1.o
    1.7 2.1d e8.1i 4.1d 8 e m.4 1.e uo.u 6.5 5x.6 1.g 2.6 1.1 1.4 5.1p x 34.18 3.d 2.9 4 8x.u
    h.1l d2.15 5y.16 dh.6 1.3 1.1 1.e 1.5g b.6 15.23 4.9 x2.3 1.q 1.1 1 2 1.9 1.3 1 1 6 4 1 1 1.2
    1.1 1 2 1*4 1.1 1 2.3 1.6 1.3 1.3 1 1.9 1.g 5.2 1.4 1.g 2lw.9 sm.wyn w.37d 6.65 2.4g1 e.5rk
    f.h9 1wi.f1 15u.3t6 5.38f f9e8.6n"),
  ("ids idstart",
    "1t.p 6.p 1b a 4 5.m 1.u 1.cp 4.b e.4 7 1 3l.4 1.1 2.3 1 6 1.2 1 1.j 1.2a 1.3u 8.4l 1.11 2
    6.14 1z.q 4.3 19.16 z.1 1.2q 1 f.1 7.1 a.2 2 g 1.t t.2g b o.w 9.1 4 5.l 4 9 3 n.o 7.a 5.n 1.5
    h.15 1m.1h 3 i 7.9 f.f 4.7 2.1 2.l 1.6 1 3.3 3 g d.1 1.2 e.1 a 8.5 4.1 2.l 1.6 1.1*3 v.3 1
    j.2 g.8 1.2 1.l 1.6 1.1 1.4 3 i f.1 n b.7 2.1 2.l 1.6 1.1 1.4 3 u.1 1.2 f h 1.5 3.2 1.3 3.1 1
    1.1 3.1 3.2 3.b m 1g.7 1.2 1.m 1.f 3 q.2 2 2.1 u 4.7 1.2 1.m 1.9 1.4 3 v.1 1.1 f.1 h.8 1.2
    1.14 2 g 5.2 8.2 o.5 5.h 3.n 1.8 1 2.6 1m.1b 1.1 c.6 1m.1 1 1.4 1.n 1 1.9 1.1 9 2.4 1 l.3 w
    1r.7 1.z r.4 37.16 k g.5 4.3 3 3.1 7.2 4.c c h.11 1 5 2.16 1.98 1.3 2.6 1 1.3 2.14 1.3 2.w
    1.3 2.6 1 1.3 2.e 1.1k 1.3 2.1u 11.f g.2d 2.5 3.h7 2.g 1.p 5.22 3.a 7.h d.i e.h e.c 1.2 f.1f
    z 4 1v.2g 7.14 1 5.1x a.u 1d.t 2.4 b.17 4.p 1i.m 9.1g 2a 2l.1a h.7 1i.t d.1 a.17 q.z 15.2 a.z
    2.a 5.16 2.2 15.3 1.5 1.1 3 5.5b 1s.7p 2.5 2.11 2.5 2.7 1*3 1.u 2.1g 1.6 1 3.2 1.6 3.3 2.5
    4.c 5.2 1.6 38 d g.c 2t 4 2.9 1 2.5 6 1 1 1.f 2.3 5.4 4 h.14 22f.6c 6.3 3.1 c.11 1 5 2.1j 7
    g.m 9.6 1.6*7 fa.2 p.8 7.4 2.4 4.2d 4.4 1.2h 1.3 5.16 1.2l h.v 1c.f e8.533 1s.h3g 1v.19 2.7g
    3.f a.1 k.1a g.u 2.27 13.8 2.2u 2.1u 2.1 1 1.7 l.f 1.2 1.3 1.m t.1f e.1d 1q.5 3 1.1 b.r a.m
    p.s 7.1a s g.4 1.9 a.4 1.14 n.2 1.7 k.m 3 3.1d 1 3.1 2.4 2 1 o.2 2.a 7.2 c.5 2.5 2.5 9.6 1.6
    1.16 1.d 6.36 t.8mb c.m 4.1c 6is.a5 2.2x 12.6 c.4 5 1.9 1.c 1.4 1 1.1 1.1 1.2z x.a2 i.1r 2.1h
    14.b 38.4 1.3q 10.p 6.p b.2g 3.5 2.5 2.5 2.2 z.b 1.p 1.i 1.1 1.e 2.d y.3e 1x.1g 7f.s 3.1c
    1b.v d.t 5.11 a.t 2.z 4.7 1.4 16.4d i.z 4.z 4.13 8.1f c.a 1.e 1.6 1.1 1.a 1.e 1.6 1.1 3.1f
    c.8m 9.l a.7 o.5 1.15 1.8 1x.5 2 1.17 1.1 3 2.m a.m 9.u 1t.i 1.1 a.l a.p 1y.1j 6.1 1s f.3 1.2
    1.s 16.s 3.s z.7 1.r r.1h a.l a.i d.h 32.20 1j.1e d.1e d.z 12.r 9.m 6y.15 6.1 g.2 1n.s a 8.l
    16.h 1a.k r.m c.1g 1l.1 2 d.18 w.o q.z t 2 8.y 3 c.1b e.3 l 1 z.h 1.o j.1 1r.6 1 1.3 1.e 1.9
    7.1a 12.7 2.1 2.l 1.6 1.1 1.4 3 i c.4 u.9 1 2 1.11 1 p 1 18.1g i.3 k.2 u.1b k.1 1 54.1a 15.3
    10.1b k 1n.16 d 1z.q 11.6 55.17 38.1r v.7 2 2.7 1.1 1.n f 1 2m.7 2.12 g 1 s a.13 7 l b.19 j
    i.20 5j.w v.8 1.10 h 1d.t 34.6 1.1 1.11 l p.5 1.1 1.v e 93.i f 1.c 1.x 3g 27.pl 2u.32 h.5f
    218.2o f.tr h.5 p.32y 5.g6 5a1.t 1cy.fs 7.u h.26 h.t i.1b g.3 v.k 5.i c0.18 5v.1r 3k.22 5
    1u.c 1s.1 1 s.4qf 8.yd 15.9 6w7.3 1.6 1.1 1.82 f t.2 2 e.3 8.az 1s4.2y 5.c 3.8 7.9 4me.2c
    1.1y 1.1 2 2.1 2.3 1.b 1 1.6 1.1s 1.3 2.7 1.6 1.r 1.3 1.4 1 3.6 1.9f 2.o 1.o 1.u 1.o 1.u 1.o
    1.u 1.o 1.u 1.o 1.7 1f8.u 6.5 79.1p 42.18 a.6 g 8x.t i.17 dg.r 6c.t 2 dr.6 1.3 1.1 1.e 1.5g
    1n.1v 7 xg.3 1.q 1.1 1 2 1.9 1.3 1 1 6 4 1 1 1.2 1.1 1 2 1*4 1.1 1 2.3 1.6 1.3 1.3 1 1.9 1.g
    5.2 1.4 1.g 3es.wyn w.37d 6.65 2.4g1 e.5rk f.h9 1wi.f1 15u.3t6 5.38f"),
  ("ideo ideographic",
    "9hi.1 p.8 e.2 qt.533 1s.g73 hkw.a5 2.2x n4a r.4qf 8.yd 15.9 76v.az f7o.wyn w.37d 6.65 2.4g1
    e.5rk f.h9 1wi.f1 15u.3t6 5.38f"),
  ("joinc joincontrol",
    "6bw.1"),
  ("loe logicalorderexception",
    "2tc.4 3f.4 25s.2 2 smy.1 2 1.1"),
  ("math",
    "17 g.2 v t 1 19 4 11 v k8.2 2 q.1 2.2 en.2 559 r.2 b 3 d e.3 l.4 b.4 1t.c 4 3.1 4.4 i 4 2.9 1
    2.5 6 3.1 2.1 1.2 1.5 3.d 1 1w.n 1.5 1.1 4.1 4.v 1 6.1 e.7f 8.3 k.1 2i u.q 1 o b.6 cd.1 c.9
    4.5 4.1 2.1 3.4 e 1 2.5 b.7 5.1 1l 1 t.3 9.2 9c.1r 74.e7 1c.k 2.5 1524 mv.5 1 4i g.2 t 1 t 1
    3n 6.3 2ox.1 1374.2c 1.1y 1.1 2 2.1 2.3 1.b 1 1.6 1.1s 1.3 2.7 1.6 1.r 1.3 1.4 1 3.6 1.9f
    2.83 2.1d 4cg.3 1.q 1.1 1 2 1.9 1.3 1 1 6 4 1 1 1.2 1.1 1 2 1*4 1.1 1 2.3 1.6 1.3 1.3 1 1.9
    1.g 5.2 1.4 1.g 1g.1"),
  ("nchar noncharactercodepoint",
    "1e4w.v em.1 1eke.1*g"),
  ("patsyn patternsyntax",
    "x.e a.6 q.3 1 q.3 y.6 1 1.1 1 1.1 4 4 3 n v 654.n 8.e 2.i 1.9 8h.jz 4g.hh u.vf e8.3j ap.2 4.o
    f 14i5.1 79.1"),
  ("patws patternwhitespace",
    "9.4 i 2s 688.1 o.1"),
  ("pcm prependedconcatenationmark",
    "16o.5 5z 1d ao.1 28 1g4a f"),
  ("qmark quotationmark",
    "y 4 3n f 670.7 p.1 2rr cp.3 d.2 14pt.3 59 4 2i.1"),
  ("radical",
    "96o.p 1.2g c.5x"),
  ("ri regionalindicator",
    "2qcm.p"),
  ("sterm sentenceterminal",
    "x c g 11l 43.2 50 17.2 6u 1p 1 3.1 85.1 1d0.1 ly 4.1 lh 5i.1 4d.1 19 5 8q.1 9u.3 4i.1 a.1 2.1
    t.2 57.1 1t.1 pw n.1 9.2 2i7.2 8i d m.1 bx n3w 7i.1 6b 3 am.1 2e.1 2n 48.1 43.2 40.1 6x g86
    2.1 1n 3.1 4p c g 1t 25w.1 zh.4 18.3 59.1 39.3 3j.2 3l.1 6 g.1 2g.1 1.1 30 8a.1 39.1 ad.1 5.e
    2x.1 6x.2 ed 1 6z.1 2f.1 bo.1 j8.1 22.1 euh.1 3p 1t.1 b fd.1 88 feu 5wo"),
  ("sd softdotted",
    "2x.1 5g 7t u 1g k 8w 2q 1 4y1 1f d 3 3o 4d bp 5y.1 27m 2bol.1 1e.1*c 1om 8h.1 q"),
  ("term terminalpunctuation",
    "x a 1 b.1 3 n2 8 e9 1l 20 e 1.2 50 17.a 1 6j.1 1i.5 1.7 v 79.1 z8.1 4s 4.5 8n.1 lx.7 lh 3g.2
    1z.1 4d.2 3 13.3 2.1 8q.1 9u.3 4i.1 a.1 1.2 t.2 57.4 1q.1 pw n.1 9.2 2i7.2 8i d 4 a 1.1 3.1
    bw.1 n3v.1 7h.2 6b.4 am.1 2e.1 2n 47.2 43.2 3j g.1 6x g86 2.1 1l.2 1.3 4p a 1 b.1 3 1t 2 u2
    1c w6 5j 8m.1 48.5 1w.5 2h.3 qg.4 18.3 59.6 34.3 3j.2 3l.1 6 g.1 2g.4 30 8a.1 39.2 c.1 9y.3
    3.e 2x.1 6x.2 ed 1 6z.1 2f.1 4.1 bi.2 19 hx.1 22.1 10r.4 dtl.1 3p 1t.2 a fd.1 87.1 feu 5wn.3"),
  ("uideo unifiedideograph",
    "a9s.533 1s.g73 hse.1 1 1.1 a 1 1.1 2.2 1fpy.wyn w.37d 6.65 2.4g1 e.5rk f.h9 3he.3t6 5.38f"),
  ("vs variationselector",
    "4qz.2 1 19f4.f i9yo.6n"),
  ("xidc xidcontinue",
    "1c.9 7.p 4 1.p 1b a 1 2 5.m 1.u 1.cp 4.b e.4 7 1 h.38 1.1 3.2 1 6.4 1 1.j 1.2a 1.3u 1.4 2.4l
    1.11 2 6.14 8.18 1 1.1 1.1 1 8.q 4.3 t.a 5.21 4.2t 1.7 2.9 1.i 2 g.1m 2.2s e.1h 4 2 2.19 i.r
    4.a 5.n 1.5 8.22 1.3k 2.9 1.i 1.7 2.1 2.l 1.6 1 3.3 2.8 2.1 2.3 8 4.1 1.4 2.b a 1 2.2 1.5 4.1
    2.l 1.6 1.1*3 2 1.4 4.1 2.2 3 7.3 1 7.f b.2 1.8 1.2 1.l 1.6 1.1 1.4 2.9 1.2 1.2 2 f.3 2.9 9.6
    1.2 1.7 2.1 2.l 1.6 1.1 1.4 2.8 2.1 2.2 7.2 4.1 1.4 2.9 1 g.1 1.5 3.2 1.3 3.1 1 1.1 3.1 3.2
    3.b 4.4 3.2 1.3 2 6 e.9 g.c 1.2 1.m 1.f 2.8 1.2 1.3 7.1 1.2 2 2.3 2.9 g.3 1.7 1.2 1.m 1.9 1.4
    2.8 1.2 1.3 7.1 6.1 1.3 2.9 1.2 c.c 1.2 1.1e 1.2 1.4 5.3 7.4 2.9 a.5 1.2 1.h 3.n 1.8 1 2.6 3
    4.5 1 1.7 6.9 2.1 d.1l 5.e 1.9 13.1 1 1.4 1.n 1 1.m 2.4 1 1.6 1.9 2.3 w n.1 6.9 b 1 1 4.9 1.z
    4.j 1.h 1.z 9 1l.21 6.25 2.11 1 5 2.16 1.98 1.3 2.6 1 1.3 2.14 1.3 2.w 1.3 2.6 1 1.3 2.e 1.1k
    1.3 2.1u 2.2 9.8 e.f g.2d 2.5 3.h7 2.g 1.p 5.22 3.a 7.l 9.l b.j c.c 1.2 1.1 c.2b 3 4.1 2.9
    x.2 1.a 6.2g 7.16 5.1x a.u 1.b 4.b a.13 2.4 b.17 4.p 6.a 11.r 4.1q 1.s 2.a 6.9 d 8.d 1.f
    1d.24 3.9 h.8 c.37 c.1j 8.9 3.1c 2.a 5.16 2.2 g.2 1.12 5.et 2.5 2.11 2.5 2.7 1*3 1.u 2.1g 1.6
    1 3.2 1.6 3.3 2.5 4.c 5.2 1.6 f.1 1d.1 j s d g.c 1f.c 4 3.b h 4 2.9 1 2.5 6 1 1 1.f 2.3 5.4 4
    h.14 22f.6c 6.8 c.11 1 5 2.1j 7 f.n 9.6 1.6*7 1.v ed.2 p.e 1.4 2.4 4.2d 2.1 2.2 1.2m 5.16
    1.2l h.v 1c.f e8.533 1s.h3g 1v.19 2.7g 3.r k.1b 4.9 1.36 11.8 2.2u 2.1u 2.1 1 1.7 l.1h 4 j.1f
    c.1x a.9 6.n 3 1.1c 2.z c.s 3.1s e.a 6.u 1.1i 9.d 2.9 6.m 3.20 o.2 2.f 2.4 a.5 2.5 2.5 9.6
    1.6 1.16 1.d 6.3e 1.1 2.9 6.8mb c.m 4.1c 6is.a5 2.2x 12.6 c.4 5.b 1.c 1.4 1 1.1 1.1 1.2z x.3u
    6.61 i.1r 2.1h 14.9 6.f g.f 3.1 o.2 x 1 3 1*3 1.3h j.9 7.p 4 1.p a.2h 3.5 2.5 2.5 2.2 z.b 1.p
    1.i 1.1 1.e 2.d y.3e 1x.1g 3s 3m.s 3.1c f v.v d.t 5.16 5.t 2.z 4.7 1.4 16.4d 2.9 6.z 4.z 4.13
    8.1f c.a 1.e 1.6 1.1 1.a 1.e 1.6 1.1 3.1f c.8m 9.l a.7 o.5 1.15 1.8 1x.5 2 1.17 1.1 3 2.m a.m
    9.u 1t.i 1.1 a.l a.p 1y.1j 6.1 1s.3 1.1 5.7 1.2 1.s 2.2 4 w.s 3.s z.7 1.t p.1h a.l a.i d.h
    32.20 1j.1e d.1e d.13 8.9 6.11 3.4 1.m 6y.15 1.1 3.1 g.2 1j.w a 8.w v.l 16.k r.m 9.1y v.f
    9.1n 7 d.o 7.9 6.1g 1.9 4.3 8.z 2 9.1w 4.3 1.c 1 z.h 1.10 6.3 1q.6 1 1.3 1.e 1.9 7.1m 5.9 6.3
    1.7 2.1 2.l 1.6 1.1 1.4 1.9 2.1 2.2 2 6 5.6 2.6 3.4 b.9 1 2 1.11 1.9 1 2 1.3 1.7 d.1 t.22 5.9
    4.3 u.1x 1 8.9 4m.1h 2.8 n.5 y.1s 3 b.9 12.1k 7.9 6.j s.q 2.e 4.9 6.6 55.1m 2t.21 l.7 2 2.7
    1.1 1.t 1.1 2.8 c.9 1y.7 2.19 2.7 1.1 r.1q 8 8.21 3 i.20 5j.w f.9 6.8 1.18 1.8 f.9 o.t 2.l
    1.d 21.6 1.1 1.17 3 1.1 1.8 8.9 6.5 1.1 1.10 1.1 1.5 7.9 8m.m 9.g 1.14 3.4 d.a 2d 27.pl 2u.32
    h.5f 218.2o f.tr g.l a.32y 5.g6 5a1.1l 1c6.fs 7.u 1.9 6.26 1.9 6.t 2.4 b.1i 9.3 c.9 9.k 5.i
    c0.18 3.9 5i.1r 3k.22 4.1k 7.g 1s.1 1.1 b.1 e.4qf 8.yd 15.9 6w7.3 1.6 1.1 1.82 f t.2 2 e.3
    8.az 1s4.2y 5.c 3.8 7.9 3.1 381.9 ee.19 2.m f2.4 3.5 8.7 2.6 u.3 44.2 cb.2c 1.1y 1.1 2 2.1
    2.3 1.b 1 1.6 1.1s 1.3 2.7 1.6 1.r 1.3 1.4 1 3.6 1.9f 2.o 1.o 1.u 1.o 1.u 1.o 1.u 1.o 1.u 1.o
    1.7 2.1d e8.1i 4.1d 8 e m.4 1.e uo.u 6.5 5x.6 1.g 2.6 1.1 1.4 5.1p x 34.18 3.d 2.9 4 8x.u
    h.1l d2.15 5y.16 dh.6 1.3 1.1 1.e 1.5g b.6 15.23 4.9 x2.3 1.q 1.1 1 2 1.9 1.3 1 1 6 4 1 1 1.2
    1.1 1 2 1*4 1.1 1 2.3 1.6 1.3 1.3 1 1.9 1.g 5.2 1.4 1.g 2lw.9 sm.wyn w.37d 6.65 2.4g1 e.5rk
    f.h9 1wi.f1 15u.3t6 5.38f f9e8.6n"),
  ("xids xidstart",
    "1t.p 6.p 1b a 4 5.m 1.u 1.cp 4.b e.4 7 1 3l.4 1.1 3.2 1 6 1.2 1 1.j 1.2a 1.3u 8.4l 1.11 2
    6.14 1z.q 4.3 19.16 z.1 1.2q 1 f.1 7.1 a.2 2 g 1.t t.2g b o.w 9.1 4 5.l 4 9 3 n.o 7.a 5.n 1.5
    h.15 1m.1h 3 i 7.9 f.f 4.7 2.1 2.l 1.6 1 3.3 3 g d.1 1.2 e.1 a 8.5 4.1 2.l 1.6 1.1*3 v.3 1
    j.2 g.8 1.2 1.l 1.6 1.1 1.4 3 i f.1 n b.7 2.1 2.l 1.6 1.1 1.4 3 u.1 1.2 f h 1.5 3.2 1.3 3.1 1
    1.1 3.1 3.2 3.b m 1g.7 1.2 1.m 1.f 3 q.2 2 2.1 u 4.7 1.2 1.m 1.9 1.4 3 v.1 1.1 f.1 h.8 1.2
    1.14 2 g 5.2 8.2 o.5 5.h 3.n 1.8 1 2.6 1m.1b 1 d.6 1m.1 1 1.4 1.n 1 1.9 1 a 2.4 1 l.3 w 1r.7
    1.z r.4 37.16 k g.5 4.3 3 3.1 7.2 4.c c h.11 1 5 2.16 1.98 1.3 2.6 1 1.3 2.14 1.3 2.w 1.3 2.6
    1 1.3 2.e 1.1k 1.3 2.1u 11.f g.2d 2.5 3.h7 2.g 1.p 5.22 3.a 7.h d.i e.h e.c 1.2 f.1f z 4
    1v.2g 7.14 1 5.1x a.u 1d.t 2.4 b.17 4.p 1i.m 9.1g 2a 2l.1a h.7 1i.t d.1 a.17 q.z 15.2 a.z 2.a
    5.16 2.2 15.3 1.5 1.1 3 5.5b 1s.7p 2.5 2.11 2.5 2.7 1*3 1.u 2.1g 1.6 1 3.2 1.6 3.3 2.5 4.c
    5.2 1.6 38 d g.c 2t 4 2.9 1 2.5 6 1 1 1.f 2.3 5.4 4 h.14 22f.6c 6.3 3.1 c.11 1 5 2.1j 7 g.m
    9.6 1.6*7 fa.2 p.8 7.4 2.4 4.2d 6.2 1.2h 1.3 5.16 1.2l h.v 1c.f e8.533 1s.h3g 1v.19 2.7g 3.f
    a.1 k.1a g.u 2.27 13.8 2.2u 2.1u 2.1 1 1.7 l.f 1.2 1.3 1.m t.1f e.1d 1q.5 3 1.1 b.r a.m p.s
    7.1a s g.4 1.9 a.4 1.14 n.2 1.7 k.m 3 3.1d 1 3.1 2.4 2 1 o.2 2.a 7.2 c.5 2.5 2.5 9.6 1.6 1.16
    1.d 6.36 t.8mb c.m 4.1c 6is.a5 2.2x 12.6 c.4 5 1.9 1.c 1.4 1 1.1 1.1 1.2z x.3u 6.61 i.1r 2.1h
    14.9 3b 1 3 1*3 1.3h 10.p 6.p b.1j 2.u 3.5 2.5 2.5 2.2 z.b 1.p 1.i 1.1 1.e 2.d y.3e 1x.1g
    7f.s 3.1c 1b.v d.t 5.11 a.t 2.z 4.7 1.4 16.4d i.z 4.z 4.13 8.1f c.a 1.e 1.6 1.1 1.a 1.e 1.6
    1.1 3.1f c.8m 9.l a.7 o.5 1.15 1.8 1x.5 2 1.17 1.1 3 2.m a.m 9.u 1t.i 1.1 a.l a.p 1y.1j 6.1
    1s f.3 1.2 1.s 16.s 3.s z.7 1.r r.1h a.l a.i d.h 32.20 1j.1e d.1e d.z 12.r 9.m 6y.15 6.1 g.2
    1n.s a 8.l 16.h 1a.k r.m c.1g 1l.1 2 d.18 w.o q.z t 2 8.y 3 c.1b e.3 l 1 z.h 1.o j.1 1r.6 1
    1.3 1.e 1.9 7.1a 12.7 2.1 2.l 1.6 1.1 1.4 3 i c.4 u.9 1 2 1.11 1 p 1 18.1g i.3 k.2 u.1b k.1 1
    54.1a 15.3 10.1b k 1n.16 d 1z.q 11.6 55.17 38.1r v.7 2 2.7 1.1 1.n f 1 2m.7 2.12 g 1 s a.13 7
    l b.19 j i.20 5j.w v.8 1.10 h 1d.t 34.6 1.1 1.11 l p.5 1.1 1.v e 93.i f 1.c 1.x 3g 27.pl
    2u.32 h.5f 218.2o f.tr h.5 p.32y 5.g6 5a1.t 1cy.fs 7.u h.26 h.t i.1b g.3 v.k 5.i c0.18 5v.1r
    3k.22 5 1u.c 1s.1 1 s.4qf 8.yd 15.9 6w7.3 1.6 1.1 1.82 f t.2 2 e.3 8.az 1s4.2y 5.c 3.8 7.9
    4me.2c 1.1y 1.1 2 2.1 2.3 1.b 1 1.6 1.1s 1.3 2.7 1.6 1.r 1.3 1.4 1 3.6 1.9f 2.o 1.o 1.u 1.o
    1.u 1.o 1.u 1.o 1.u 1.o 1.7 1f8.u 6.5 79.1p 42.18 a.6 g 8x.t i.17 dg.r 6c.t 2 dr.6 1.3 1.1
    1.e 1.5g 1n.1v 7 xg.3 1.q 1.1 1 2 1.9 1.3 1 1 6 4 1 1 1.2 1.1 1 2 1*4 1.1 1 2.3 1.6 1.3 1.3 1
    1.9 1.g 5.2 1.4 1.g 3es.wyn w.37d 6.65 2.4g1 e.5rk f.h9 1wi.f1 15u.3t6 5.38f"),
  ("bidim bidimirrored",
    "14.1 i 1 s 1 t 1 19 f 2v2.3 1gd.1 1wc.1 a.1 1i.1 e.1 4x 5c.3 3.5 3 3.1 3.3 1.3 1 1 4.8 5 1.h
    5.3 9.1 1 1.7 1.v 2.3 5 9.1 2.i 5.1 9.4 2.1 4.n 2.f 8.3 k.1 7.1 u5.d 22 2.3 1.1 1.2 5.3 5.2
    3.d b7.l 2.5 1.d 8 7.5 3 4.4 1.1 2.4 4 1.2 2.1 a.5 2.1 c.i 1.3 2 1 2 1.3 5.1 6.2 o.1 b.1 4.3
    1.1 2.1 4.16 2.7 1.13 5 1 3.4 5.2 4 3.4 1 74 eb.3 3.1 1.1 e.1 2.9 17.7 bv.9 2.7 14ql.5 5.1
    4i.1 i 1 s 1 t 1 1.1 1.1 16k7 1l*4"),
  ("grlink graphemelink",
    "1u5 3j*7 31.1 g 3g 33 3j 5l 50.1 1cp.1 u 4d i5 6b 2t.1 1y.1 3gr o7a 11 47 3y 30 8l 6u imp 16u
    15 e 1l 3d.1 3v 38 50 2q 3k.2 35 3j 70 3j 3a 38 7h 77.1 4h 2b i 29 bp 78.1 29 bt.1 d0s"),
  ("hyphen",
    "19 3j yk 3nf 1l5.1 2rp kj 14kn 4p 2f"),
  ("idcompatmathcontinue",
    "4y.1 5 69i 3.a 1.e ab 4 m 2e8y p v p v p v p v p"),
  ("idcompatmathstart",
    "6pu 4 m 2e8y p v p v p v p v p"),
  ("idsu idsunaryoperator",
    "9ha.1"),
  ("mcm modifiercombiningmark",
    "190.1 2 3n 6 3.1 dd.1 1.2 3 v"),
  ("oalpha otheralphabetic",
    "n9 t.c g0.d 1 1.1 1.1 1 20.a 1c.c 1.6 g 2t.6 4.3 2.1 4 z u.f 2u.a 2t.1 3.8 1.2 1.3 2y 1o.b
    3.6 6.j 1i.1 2.e 1.1 5.2 a.1 t.2 1m.6 2.1 2.1 a a.1 t.2 1m.4 4.1 2.1 4 u.1 3 b.2 1m.7 1.2 1.1
    l.1 m.2 4.2 1m.6 2.1 2.1 9.1 a.1 u 1n.4 3.2 1.2 a 14.4 1l.6 1.2 1.2 8.1 b.1 t.2 1m.6 1.2 1.2
    8.1 b.1 f c.3 1m.6 1.2 1.2 a a.1 t.2 23.5 1 1.7 i.1 1p 2.6 i 2r 2.5 1.1 g 4j.i 9.a 1.z 32.b 1
    2.3 n.3 4.2 1.2 2.6 3.3 d.b 1 a.3 19w.1 u.1*3 1u.i 58.1 y 3a.b 4.8 66.4 1l.9 2.j 22.1 b.2
    1d.4 1c.e 1o.2 u.8 2.1 1l.a 1e.i bg.x 1c1.1f 1rq.v nsk.7 y.1 9u 8 n.4 2g.1 1e.f 1 1l 12.4 s.b
    19.3 1c.b 11 1v.d c 8.1 19.2 1e 1.2 2.1 5 18.4 5 6l.7 fn7 1nb.4 1ae.2 1.1 5.3 lw.3 1t 8x.1 27
    77.2 1h.d 19.1 b.2 19.8 9 1p.2 10.b i.1 1l.2 1c.c e.1 2k.8 2 6 2 4d.9 n.3 1m.6 2.1 2.1 a a.1
    2c.8 1 2 1.3 1.1 2v.c 1.2 2y.h 6l.6 2.6 t.1 2a.e 1 2y.a 2v.d 75.c 6v.5 1.1 2.1 3 1 3y.6 2.5 4
    s.9 16.4 1.3 i.a 1a.d bb.7 1.6 2b.l 1.d 3e.5 3 1.1 1.2 1 3 1u.4 1.1 1.3 9o.3 9.1 1 1c.6 3.2
    d0d.g 2sg 1.1i 7.3 2l.1 f58 6zl.6 1.g 2.6 1.1 1.4 2s 1pz 1k8.p 6.p 6.p"),
  ("odi otherdefaultignorablecodepoint",
    "nj 2rz.1 18z.1 1pr 3cu 14qj 27.8 i9dz 1.t 2o.3j 6o.2rz"),
  ("ogrext othergraphemeextend",
    "1xa o 9y o 2u o 6g 1 4.1 1.1 9.1 2v o 3b f 1th u sg 5 1 5.1 2t 1z.1 t4 36p.1 nxf 30 gyl.1 3kw
    38 7c e 9 2o 9 2 1.2 5 68 c 6p 7a hl c 16r fxq.1 j8z.1 6.5 h419.2n"),
  ("oidc otheridcontinue",
    "53 jz 34x.8 19k 181.1 3cd 14rt"),
  ("oids otheridstart",
    "4ud.1 1ox l 31o.1"),
  ("olower otherlowercase",
    "4q f dx.8 7.1 u.4 2o 1g 2o1 2en.1q d y.10 j5 d g.c 5v.f nk.p 1hu.1 o4e.1 5u 3l.2 3.1 o2.3 9
    i6u 2.2 1.15 1.8 16r9.1p"),
  ("omath othermath",
    "2m oh.2 2 q.1 2.1 5k0 r.2 b w.3 o.1 e.1 1t.c 4 3.1 4.4 i 4 2.9 1 3.4 6 3.1 2.1 1.2 1.5 3.3
    5.4 23.4 2.3 1.1 1.1 1 1.4 2.1 4.1 4.h 2.1 1 1.6 1 6.1 82.3 4o.1 1 o h cd.1 c.8 5.4 5.1 2.1
    3.4 e 1 2.5 o.1 1l 1 t.3 9.1 9i.1 v.9 b7.l 1r.3 w.1 15yb 1 4 5v 1 160x.2c 1.1y 1.1 2 2.1 2.3
    1.b 1 1.6 1.1s 1.3 2.7 1.6 1.r 1.3 1.4 1 3.6 1.9f 2.o 1.o 1.u 1.o 1.u 1.o 1.u 1.o 1.u 1.o 1.7
    2.1d 4cg.3 1.q 1.1 1 2 1.9 1.3 1 1 6 4 1 1 1.2 1.1 1 2 1*4 1.1 1 2.3 1.6 1.3 1.3 1 1.9 1.g
    5.2 1.4 1.g"),
  ("oupper otheruppercase",
    "6lc.f na.p 2ixs.p 6.p 6.p")]

def find? (name : String) : Option CharSet :=
  (Category.named? name tables).map Table.decode

end StubHttp.Unicode.Property
