import Monocycle.Text.Basic

/-!
# Sample programs

The programs that come with the simulator and can be run by name.
-/

namespace Monocycle

/-- Counts x3 down from 2 to 0. -/
def loopSource : String := "
addi x3, x0, 2
loop: beq x3, x0, exit
addi x3, x3, -1
beq x0, x0, loop
exit: addi x0, x0, 0
"

/-- Stores 1 to 5 at addresses 0 to 16, then sums them into a0. -/
def arraySumSource : String := "
addi x1, x0, 1
addi x2, x0, 0          # address
addi x3, x0, 6
fill: beq x1, x3, sum
sw x1, 0(x2)
addi x1, x1, 1
addi x2, x2, 4
beq x0, x0, fill
sum: addi x2, x0, 0
addi a0, x0, 0
addi x4, x0, 20
add_loop: beq x2, x4, done
lw x5, 0(x2)
add a0, a0, x5
addi x2, x2, 4
beq x0, x0, add_loop
done: beq x0, x0, done  # halt
"

/-- Sorts six words from address 0 on. -/
def bubbleSortSource : String := "
addi x5, x0, 324
sw x5, 0(x0)
addi x5, x0, 3
sw x5, 4(x0)
addi x5, x0, 9
sw x5, 8(x0)
addi x5, x0, 8
sw x5, 12(x0)
addi x5, x0, 1
sw x5, 16(x0)
addi x5, x0, 256
sw x5, 20(x0)

addi x3, x0, 0          # array base
addi x4, x0, 6          # n
addi x7, x0, 0          # i
outer_loop: addi x11, x4, -1
beq x7, x11, outer_exit
addi x10, x3, 0
addi x8, x0, 0
inner_loop: sub x12, x4, x7
addi x12, x12, -1
beq x8, x12, inner_exit
lw x5, 0(x10)
lw x6, 4(x10)
slt x11, x6, x5
beq x11, x0, no_swap
sw x5, 4(x10)
sw x6, 0(x10)
no_swap: addi x10, x10, 4
addi x8, x8, 1
beq x0, x0, inner_loop
inner_exit: addi x7, x7, 1
beq x0, x0, outer_loop
outer_exit: beq x0, x0, outer_exit
"

/-- The sample programs by name. -/
def samplePrograms : List (String × String) :=
  [("loop", loopSource), ("array_sum", arraySumSource), ("bubble_sort", bubbleSortSource)]

end Monocycle
